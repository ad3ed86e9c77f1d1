import SupervisedShell.Proofs.Session.Journal

set_option autoImplicit false

namespace SupervisedShell

variable {σ α β : Type}

def Factory.Accepts (f : Factory σ) (env : Environment) (name : String) (args : List String) :
    Prop :=
  (f env name args).isSome

def Accepted (factories : List (Factory σ)) (env : Environment) (name : String)
    (args : List String) : Prop :=
  ∃ f ∈ factories, f.Accepts env name args

/-- A world, with the places of the factories whose commands have run. -/
structure Tally (σ : Type) where
  world : σ
  ran : List Nat

def Action.tallied (place : Nat) (x : Action σ α) : Action (Tally σ) α := fun env t =>
  let (r, env, s) := x env t.world
  (r, env, ⟨s, t.ran ++ [place]⟩)

/-- The same factory, with commands that leave its place behind. -/
def Factory.tallied (place : Nat) (f : Factory σ) : Factory (Tally σ) := fun env name args =>
  (f env name args).map (Action.tallied place)

def tallied (factories : List (Factory σ)) : List (Factory (Tally σ)) :=
  factories.zipIdx.map fun (f, place) => f.tallied place

section
variable {f : Factory σ} {front behind factories : List (Factory σ)} {env : Environment}
  {name : String} {args : List String} {command : Command σ}

theorem accepted_iff :
    Accepted factories env name args ↔ (factories.findSome? fun f => f env name args).isSome := by
  rw [List.findSome?_isSome_iff]
  rfl

theorem not_accepted_iff :
    ¬ Accepted factories env name args ↔ ∀ f ∈ factories, f env name args = none := by
  rw [accepted_iff, Option.not_isSome_iff_eq_none, List.findSome?_eq_none_iff]

/-- The first factory that accepts has those before it that do not. -/
theorem Accepted.split (accepted : Accepted factories env name args) : ∃ front f behind command,
    factories = front ++ f :: behind ∧ f env name args = some command ∧
      ¬ Accepted front env name args := by
  obtain ⟨command, found⟩ := Option.isSome_iff_exists.mp (accepted_iff.mp accepted)
  obtain ⟨front, f, behind, split, made, refused⟩ := List.findSome?_eq_some_iff.mp found
  exact ⟨front, f, behind, command, split, made, not_accepted_iff.mpr refused⟩

theorem dispatch_of_accepted (accepted : Accepted front env name args)
    (behind : List (Factory σ)) (s : σ) :
    dispatch (front ++ behind) name args env s = dispatch front name args env s := by
  obtain ⟨command, found⟩ := Option.isSome_iff_exists.mp (accepted_iff.mp accepted)
  simp only [dispatch, List.findSome?_append, found, Option.some_or]

theorem dispatch_of_passed (passed : ¬ Accepted front env name args)
    (behind : List (Factory σ)) (s : σ) :
    dispatch (front ++ behind) name args env s = dispatch behind name args env s := by
  rw [accepted_iff, Option.not_isSome_iff_eq_none] at passed
  simp only [dispatch, List.findSome?_append, passed, Option.none_or]

theorem dispatch_cons (made : f env name args = some command)
    (behind : List (Factory σ)) (s : σ) :
    dispatch (f :: behind) name args env s = command env s := by
  simp only [dispatch, List.findSome?_cons, made]

theorem dispatch_of_unaccepted (unknown : ¬ Accepted factories env name args) (s : σ) :
    dispatch factories name args env s = (.error (.unknownCommand name), env, s) := by
  rw [accepted_iff, Option.not_isSome_iff_eq_none] at unknown
  simp only [dispatch, unknown]

theorem tallied_append (front behind : List (Factory σ)) :
    tallied (front ++ f :: behind) =
      tallied front ++ f.tallied front.length ::
        (behind.zipIdx (front.length + 1)).map fun (f, place) => f.tallied place := by
  simp [tallied, List.zipIdx_append]

theorem accepted_of_tallied (accepted : Accepted (tallied factories) env name args) :
    Accepted factories env name args := by
  obtain ⟨_, listed, accepts⟩ := accepted
  obtain ⟨⟨f, place⟩, known, rfl⟩ := List.mem_map.mp listed
  exact ⟨f, List.fst_mem_of_mem_zipIdx
    known, by simpa [Factory.Accepts, Factory.tallied] using accepts⟩

/-- One command runs, that of the first factory that accepts. -/
theorem dispatch_once (made : f env name args = some command)
    (refused : ¬ Accepted front env name args)
    (behind : List (Factory σ)) (s : σ) (ran : List Nat) :
    dispatch (front ++ f :: behind) name args env s = command env s ∧
      dispatch (tallied (front ++ f :: behind)) name args env ⟨s, ran⟩ =
        command.tallied front.length env ⟨s, ran⟩ := by
  constructor
  · rw [dispatch_of_passed refused, dispatch_cons made]
  · have noted : f.tallied front.length env name args = some (command.tallied front.length) := by
      rw [Factory.tallied, made, Option.map_some]
    rw [tallied_append, dispatch_of_passed (mt accepted_of_tallied refused), dispatch_cons noted]

end

namespace Builtin

def names : List String := ["fib", "caesar", "exit"]

def factoryOf (host : Host σ) (own : String) : Factory σ := fun env name args =>
  if name = own then factory host env name args else none

theorem ofArgs?_eq_none_iff {name : String} {args : List String} :
    ofArgs? name args = none ↔ name ∉ names := by
  unfold ofArgs? names
  split
  · simp [*]
  · split
    · simp [*]
    · split <;> simp [*]

theorem factory_eq_none {host : Host σ} {env : Environment} {name : String} {args : List String}
    (foreign : name ∉ names) : factory host env name args = none := by
  rw [factory, ofArgs?_eq_none_iff.mpr foreign, Option.map_none]

theorem factory_eq_some (host : Host σ) (env : Environment) {name : String} (own : name ∈ names)
    (args : List String) : ∃ made, factory host env name args = some (perform host made) := by
  obtain ⟨made, known⟩ :=
    Option.ne_none_iff_exists'.mp fun none => ofArgs?_eq_none_iff.mp none own
  exact ⟨made, by rw [factory, known, Option.map_some]⟩

/-- It makes no difference whether the built-in commands share a factory. -/
theorem dispatch_factoryOf (host : Host σ) (behind : List (Factory σ)) :
    dispatch (names.map (factoryOf host) ++ behind) = dispatch (factory host :: behind) := by
  funext name args env s
  by_cases own : name ∈ names
  · obtain ⟨made, known⟩ := factory_eq_some host env own args
    obtain ⟨front, back, split, before⟩ := List.eq_append_cons_of_mem own
    have chosen : factoryOf host name env name args = some (perform host made) := by
      rw [factoryOf, if_pos rfl, known]
    have refused : ¬ Accepted (front.map (factoryOf host)) env name args := by
      refine not_accepted_iff.mpr (List.forall_mem_map.mpr fun other listed => if_neg ?_)
      rintro rfl
      exact before listed
    rw [dispatch_cons known, split, List.map_append, List.map_cons, List.append_assoc,
      List.cons_append, dispatch_of_passed refused, dispatch_cons chosen]
  · have refused : ¬ Accepted (names.map (factoryOf host)) env name args := by
      refine not_accepted_iff.mpr (List.forall_mem_map.mpr fun other listed => if_neg ?_)
      rintro rfl
      exact own listed
    have refused' : ¬ Accepted [factory host] env name args :=
      not_accepted_iff.mpr (List.forall_mem_singleton.mpr (factory_eq_none own))
    rw [dispatch_of_passed refused, ← List.singleton_append, dispatch_of_passed refused']

end Builtin

def Action.FailsByOutlet (x : Action σ α) : Prop :=
  ∀ env s f, (x env s).1 = .error f → ∃ e, f = .io e

namespace Action.FailsByOutlet

theorem of_total {x : Action σ α} (total : ∀ env s, ∃ a, (x env s).1 = .ok a) :
    x.FailsByOutlet := by
  intro env s f failed
  obtain ⟨a, done⟩ := total env s
  simp [done] at failed

theorem io (g : σ → Except IoError α × σ) : (Action.io g).FailsByOutlet := by
  intro env s f failed
  rcases answered : g s with ⟨e | a, s'⟩
  · simp only [Action.io, answered, Except.error.injEq] at failed
    exact ⟨e, failed.symm⟩
  · simp [Action.io, answered] at failed

theorem bind {x : Action σ α} {y : α → Action σ β} (hx : x.FailsByOutlet)
    (hy : ∀ a, (y a).FailsByOutlet) :
    (x.bind y).FailsByOutlet := by
  intro env s f failed
  rcases ran : x env s with ⟨e | a, env', s'⟩
  · have first := hx env s e (by rw [ran])
    simp only [Action.bind, ran, Except.error.injEq] at failed
    rwa [← failed]
  · simp only [Action.bind, ran] at failed
    exact hy a env' s' f failed

theorem pure (a : α) : (Action.pure a : Action σ α).FailsByOutlet :=
  of_total fun _ _ => ⟨a, rfl⟩

theorem attempt (x : Action σ α) : x.attempt.FailsByOutlet :=
  of_total fun env s => ⟨(x env s).1, rfl⟩

theorem change (g : σ → σ) : (Action.change g).FailsByOutlet :=
  of_total fun _ _ => ⟨(), rfl⟩

variable {host : Host σ}

theorem printLine (l : Line) : (Action.printLine host l).FailsByOutlet := io _

theorem explain (b : Builtin) (message : Line) (chain : String) :
    (b.explain host message chain).FailsByOutlet := by
  unfold Builtin.explain
  exact bind (change _) fun _ => bind (printLine message) fun _ => pure _

theorem builtin (b : Builtin) : (b.run host).FailsByOutlet := by
  unfold Builtin.run
  split
  · exact explain b _ _
  · next line _ =>
    refine bind (attempt _) fun result => ?_
    cases result with
    | ok _ => exact pure _
    | error f => exact explain b _ _
  · exact bind (of_total fun _ _ => ⟨(), rfl⟩) fun _ => pure _

theorem perform (made : Except BuiltinError Builtin × List Log.Record) :
    (Builtin.perform host made).FailsByOutlet := by
  unfold Builtin.perform
  refine bind (change _) fun _ => ?_
  split
  · next b _ => exact builtin b
  · exact bind (printLine _) fun _ => pure _

theorem external (name : String) (args : List String) :
    (External.run host name args).FailsByOutlet := by
  unfold External.run
  refine bind (io _) fun _ => ?_
  refine bind (of_total fun env _ => ⟨env, rfl⟩) fun env => ?_
  refine bind (of_total fun _ s => ⟨(External.start host env name args s).1, rfl⟩) ?_
  intro result
  cases result with
  | error e => exact bind (printLine _) fun _ => pure _
  | ok r =>
    refine bind (change _) fun _ => ?_
    split
    · exact bind (printLine _) fun _ => pure _
    · exact pure _

end Action.FailsByOutlet

theorem dispatch_failsByOutlet (host : Host σ) (name : String) (args : List String) :
    (dispatch (standardFactories host) name args).FailsByOutlet := by
  cases known : Builtin.ofArgs? name args with
  | none =>
    rw [dispatch_of_foreign known]
    exact .external name args
  | some made =>
    rw [dispatch_of_builtin known]
    exact .perform made

/-- Whatever a built-in command prints, it calls nothing. -/
theorem uncalled (host : Host σ) :
    host.journaled.Carries (Journal.Adds fun es => ∀ c, .call c ∉ es) where
  refl j := ⟨[], (List.append_nil _).symm, by simp⟩
  trans := by
    rintro j j' j'' ⟨xs, first, none⟩ ⟨ys, second, none'⟩
    refine ⟨xs ++ ys, by rw [second, first, List.append_assoc], fun c known => ?_⟩
    exact (List.mem_append.mp known).elim (none c) (none' c)
  write b rest j := ⟨_, rfl, by simp⟩
  flush j := ⟨_, rfl, by simp⟩
  log r j := ⟨[], (List.append_nil _).symm, by simp⟩

theorem dispatch_uncalled (host : Host σ) {name : String} (own : name ∈ Builtin.names)
    (args : List String) (env : Environment) (j : Journal σ) :
    j.Adds (fun es => ∀ c, .call c ∉ es)
      (dispatch (standardFactories host.journaled) name args env j).2.2 := by
  obtain ⟨made, known⟩ := Builtin.factory_eq_some host.journaled env own args
  rw [standardFactories, dispatch_cons known]
  exact (uncalled host).builtins env name args _ known env j

/-- Factories are asked from left to right, and no further than to the first that accepts. -/
structure AskedInOrder (σ : Type) : Prop where
  accepted : ∀ (front behind : List (Factory σ)) env name args s,
    Accepted front env name args →
    dispatch (front ++ behind) name args env s = dispatch front name args env s
  passed : ∀ (front behind : List (Factory σ)) env name args s,
    ¬ Accepted front env name args →
    dispatch (front ++ behind) name args env s = dispatch behind name args env s
  once : ∀ (factories : List (Factory σ)) env name args s ran,
    Accepted factories env name args →
    ∃ front f behind command r env' s', factories = front ++ f :: behind ∧
      ¬ Accepted front env name args ∧
      f env name args = some command ∧ command env s = (r, env', s') ∧
      dispatch factories name args env s = (r, env', s') ∧
      dispatch (tallied factories) name args env ⟨s, ran⟩ =
        (r, env', ⟨s', ran ++ [front.length]⟩)
  unknown : ∀ (factories : List (Factory σ)) env name args s ran,
    ¬ Accepted factories env name args →
    dispatch factories name args env s = (.error (.unknownCommand name), env, s) ∧
      dispatch (tallied factories) name args env ⟨s, ran⟩ =
        (.error (.unknownCommand name), env, ⟨s, ran⟩)
  message : ∀ name, (Failure.unknownCommand name).message = s!"command not found: {name}"

/-- Where names lead in a shell without plug-ins. -/
structure Routed (host : Host σ) : Prop where
  parted : dispatch [Builtin.factoryOf host "fib", Builtin.factoryOf host "caesar",
    Builtin.factoryOf host "exit", External.factory host] = dispatch (standardFactories host)
  accepted : ∀ env name args, Accepted (standardFactories host) env name args
  fails : ∀ name args, (dispatch (standardFactories host) name args).FailsByOutlet
  own : ∀ name ∈ ["fib", "caesar", "exit"], ∀ args env (j : Journal σ), ∃ es,
    (dispatch (standardFactories host.journaled) name args env j).2.2.events = j.events ++ es ∧
      ∀ c, .call c ∉ es
  others : ∀ name ∉ ["fib", "caesar", "exit"], ∀ args,
    dispatch (standardFactories host) name args = External.run host name args

theorem commands_in_order (host : Host σ) : AskedInOrder σ ∧ Routed host := by
  refine ⟨⟨?accepted, ?passed, ?once, ?unknown, ?message⟩, ?parted, ?all, ?fails,
    ?own, ?others⟩
  case accepted =>
    exact fun front behind env name args s accepted => dispatch_of_accepted accepted behind s
  case passed =>
    exact fun front behind env name args s refused => dispatch_of_passed refused behind s
  case once =>
    intro factories env name args s ran accepted
    obtain ⟨front, f, behind, command, rfl, made, refused⟩ := accepted.split
    obtain ⟨plain, noted⟩ := dispatch_once made refused behind s ran
    exact ⟨front, f, behind, command, _, _, _, rfl, refused, made, rfl, plain, noted⟩
  case unknown =>
    intro factories env name args s ran refused
    exact ⟨dispatch_of_unaccepted refused s,
      dispatch_of_unaccepted (mt accepted_of_tallied refused) ⟨s, ran⟩⟩
  case message => exact fun name => rfl
  case parted => exact Builtin.dispatch_factoryOf host [External.factory host]
  case all =>
    exact fun env name args => ⟨External.factory host, by simp [standardFactories], rfl⟩
  case fails => exact dispatch_failsByOutlet host
  case own => exact fun name own args env j => dispatch_uncalled host own args env j
  case others =>
    exact fun name foreign args => dispatch_of_foreign (Builtin.ofArgs?_eq_none_iff.mpr foreign)

end SupervisedShell
