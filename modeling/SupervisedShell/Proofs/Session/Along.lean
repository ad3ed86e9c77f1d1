import SupervisedShell.Interpreter
import SupervisedShell.Plugin
/-!
What a session does to the world, from single pieces of text up. A relation between two worlds that
holds across each offer to the outlet, each flush and each record of the log holds across the
commands of the shell itself. For the launcher and for the loop it is left to show what follows a
flush that has worked.
-/

set_option autoImplicit false

namespace SupervisedShell

variable {ι σ α β : Type}

/-- However the action ends, it leaves a world that is related to the one before. -/
def Action.Along (R : σ → σ → Prop) (x : Action σ α) : Prop := ∀ env s, R s (x env s).2.2

theorem Action.Along.io {R : σ → σ → Prop} {f : σ → Except IoError α × σ}
    (h : ∀ s, R s (f s).2) :
    (Action.io f).Along R := by
  intro env s
  have asked := h s
  rcases answered : f s with ⟨e | a, s'⟩ <;> simpa only [Action.io, answered] using asked

def Factory.Along (R : σ → σ → Prop) (f : Factory σ) : Prop :=
  ∀ env name args command, f env name args = some command → Action.Along R command

structure Host.Carries (host : Host σ) (R : σ → σ → Prop) : Prop where
  refl : ∀ s, R s s
  trans : ∀ {s s' s''}, R s s' → R s' s'' → R s s''
  write : ∀ (b : UInt8) (rest : Bytes) (s : σ), R s (host.write (b :: rest) s).2
  flush : ∀ s, R s (host.flush s).2
  log : ∀ r s, R s (host.log r s)

/-- What a shell can be asked for: a line, a command by its name, or a session. -/
inductive Use (ι : Type) where
  | line (text : String)
  | command (name : String) (args : List String)
  | session (input : ι)

namespace Interpreter

def standard (host : Host σ) (prompt : String) : Interpreter σ :=
  ⟨host, standardFactories host, prompt⟩

def use (sh : Interpreter σ) (source : LineSource ι σ) (env : Environment) (s : σ) :
    Use ι → Environment × σ
  | .line text => (sh.executeLine text env s).2
  | .command name args => (dispatch sh.factories name args env s).2
  | .session input => ((sh.session source env input s).2.1, (sh.session source env input s).2.2.2)

def uses (sh : Interpreter σ) (source : LineSource ι σ) (us : List (Use ι))
    (env : Environment) (s : σ) :
    Environment × σ := us.foldl (fun (env, s) u => sh.use source env s u) (env, s)

end Interpreter

/-- A name that no built-in command takes is one for the launcher. -/
theorem dispatch_of_foreign {host : Host σ} {name : String} {args : List String}
    (foreign : Builtin.ofArgs? name args = none) :
    dispatch (standardFactories host) name args = External.run host name args := by
  funext env s
  simp [dispatch, standardFactories, Builtin.factory, External.factory, foreign]

theorem dispatch_of_builtin {host : Host σ} {name : String} {args : List String}
    {made : Except BuiltinError Builtin × List Log.Record}
    (known : Builtin.ofArgs? name args = some made) :
    dispatch (standardFactories host) name args = Builtin.perform host made := by
  funext env s
  simp [dispatch, standardFactories, Builtin.factory, known]

namespace Host.Carries

section
variable {host : Host σ} {R : σ → σ → Prop} (c : host.Carries R)
include c

theorem pure (a : α) : (Action.pure a : Action σ α).Along R := fun _ s => c.refl s

theorem fail (f : Failure) : (Action.fail f : Action σ α).Along R := fun _ s => c.refl s

theorem bind {x : Action σ α} {f : α → Action σ β} (hx : x.Along R)
    (hf : ∀ a, (f a).Along R) :
    (x.bind f).Along R := by
  intro env s
  have first := hx env s
  rcases ran : x env s with ⟨e | a, env', s'⟩
  · rw [ran] at first
    simpa only [Action.bind, ran] using first
  · rw [ran] at first
    simpa only [Action.bind, ran] using c.trans first (hf a env' s')

/-- An action that comes first only if the condition holds. -/
theorem choice {x : Action σ Unit} {y : Action σ α} {b : Bool} (hx : x.Along R)
    (hy : y.Along R) :
    (if b then x.bind fun _ => y else y).Along R := by
  cases b with
  | true => exact c.bind hx fun _ => hy
  | false => exact hy

theorem leave : (Action.leave : Action σ Unit).Along R := fun _ s => c.refl s

theorem logged (r : Log.Record) : (Action.log host r).Along R := fun _ s => c.log r s

theorem writeAll (bytes : Bytes) (s : σ) : R s (host.toOutlet.writeAll bytes s).2 := by
  generalize size : bytes.length = n
  induction n using Nat.strongRecOn generalizing bytes s with
  | ind n ih =>
    cases bytes with
    | nil =>
      rw [Outlet.writeAll]
      exact c.refl s
    | cons b rest =>
      have offered := c.write b rest s
      rw [Outlet.writeAll]
      rcases written : host.write (b :: rest) s with ⟨e | _ | taken, s₁⟩
      · rwa [written] at offered
      · rwa [written] at offered
      · rw [written] at offered
        have shorter : (rest.drop taken).length < n := by
          rw [← size, List.length_drop, List.length_cons]
          omega
        exact c.trans offered (ih _ shorter (rest.drop taken) s₁ rfl)

theorem printAll (pieces : List String) (s : σ) : R s (host.toOutlet.printAll pieces s).2 := by
  induction pieces generalizing s with
  | nil => exact c.refl s
  | cons piece rest ih =>
    have offered := c.writeAll (Utf8.encode piece) s
    rw [Outlet.printAll]
    rcases written : host.toOutlet.writeAll (Utf8.encode piece) s with ⟨_ | _, s₁⟩
    · rwa [written] at offered
    · rw [written] at offered
      exact c.trans offered (ih s₁)

theorem printLine (l : Line) : (Action.printLine host l).Along R := .io (c.printAll l.pieces)

theorem record (records : List Log.Record) : (Builtin.record host records).Along R := by
  induction records with
  | nil => exact c.pure ()
  | cons r records ih => exact c.bind (c.logged r) fun _ => ih

theorem explain (b : Builtin) (message : Line) (chain : String) :
    (b.explain host message chain).Along R := by
  unfold Builtin.explain
  refine c.bind (c.logged _) fun _ => ?_
  exact c.bind (c.printLine message) fun _ => c.pure _

theorem builtin (b : Builtin) : (b.run host).Along R := by
  unfold Builtin.run
  split
  · exact c.explain b _ _
  · next line _ =>
    have printed : (Action.printLine host (.ofText line)).attempt.Along R := c.printLine _
    refine c.bind printed fun result => ?_
    cases result with
    | ok _ => exact c.pure _
    | error f => exact c.explain b _ _
  · exact c.bind c.leave fun _ => c.pure _

theorem builtins : (Builtin.factory host).Along R := by
  intro env name args command made
  obtain ⟨chosen, -, rfl⟩ := Option.map_eq_some_iff.mp made
  unfold Builtin.perform
  refine c.bind (c.record chosen.2) fun _ => ?_
  split
  · next b _ => exact c.builtin b
  · exact c.bind (c.printLine _) fun _ => c.pure _

theorem plugin (q : Plugin) (name : String) (args : List String) :
    (q.run host name args).Along R := by
  obtain ⟨name?, output, echoes, leaves, failure?, code⟩ := q
  unfold Plugin.run
  refine c.bind (.io (c.writeAll _)) fun _ => ?_
  cases failure? with
  | none => exact c.choice (c.printLine _) (c.choice c.leave (c.pure code))
  | some f => exact c.choice (c.printLine _) (c.choice c.leave (c.fail f))

theorem plugins (q : Plugin) : (q.factory host).Along R := by
  intro env name args command made
  unfold Plugin.factory at made
  split at made
  · cases made
    exact c.plugin q name args
  · simp at made

theorem conclude (name : String) (r : Except ProgramError Report) :
    (External.conclude host name r).Along R := by
  cases r with
  | ok r => exact c.bind (c.logged _) fun _ => c.choice (c.printLine _) (c.pure _)
  | error e => exact c.bind (c.printLine _) fun _ => c.pure _

section
variable (started : ∀ env name args s s₁, host.flush s = (.ok (), s₁) →
  R s (External.start host env name args s₁).2)
include started

theorem external (name : String) (args : List String) : (External.run host name args).Along R := by
  intro env s
  have flushed := c.flush s
  unfold External.run
  rcases out : host.flush s with ⟨e | _, s₁⟩
  · rw [out] at flushed
    simpa [Bind.bind, Action.bind, Action.io, out] using flushed
  · -- The flush and the start are one step: what is started depends on the flush.
    have ran := started env name args s s₁ out
    have concluded := c.conclude name (External.start host env name args s₁).1 env
      (External.start host env name args s₁).2
    simpa [Bind.bind, Action.bind, Action.io, Action.environment, Action.ask, out] using
      c.trans ran concluded

theorem launcher : (External.factory host).Along R := by
  intro env name args command made
  cases made
  exact c.external started name args

theorem standard : ∀ f ∈ standardFactories host, Factory.Along R f := by
  refine List.forall_mem_cons.mpr ⟨c.builtins, ?_⟩
  exact List.forall_mem_singleton.mpr (c.launcher started)

end

theorem dispatch {factories : List (Factory σ)} (along : ∀ f ∈ factories, Factory.Along R f)
    (name : String) (args : List String) : (dispatch factories name args).Along R := by
  intro env s
  unfold SupervisedShell.dispatch
  split
  · next command made =>
    obtain ⟨f, known, made⟩ := List.exists_of_findSome?_eq_some made
    exact along f known env name args command made env s
  · exact c.refl s

end

section
variable {sh : Interpreter σ} {R : σ → σ → Prop} (c : sh.host.Carries R)
include c

theorem farewell : sh.farewell.Along R := c.printLine _

theorem endOfLines (r : Log.Record) : (sh.endOfLines r).Along R := by
  unfold Interpreter.endOfLines
  refine c.bind (c.logged r) fun _ => ?_
  exact c.bind (c.printLine .blank) fun _ => c.farewell

variable (along : ∀ f ∈ sh.factories, Factory.Along R f)
include along

theorem executeLine (line : String) : (sh.executeLine line).Along R := by
  unfold Interpreter.executeLine
  split
  · exact c.bind (c.printLine _) fun _ => c.pure _
  · next argv _ =>
    split
    · exact c.pure none
    · next name _ =>
      refine c.bind (c.logged _) fun _ => ?_
      exact c.bind (c.dispatch along name argv.args) fun _ => c.pure _

theorem step (line : String) : (sh.step line).Along R := by
  unfold Interpreter.step
  have ran : (sh.executeLine line).attempt.Along R := c.executeLine along line
  refine c.bind ran fun result => ?_
  rcases result with f | _ | code
  · exact c.bind (c.logged _) fun _ => c.printLine _
  · exact c.pure ()
  · exact c.logged _

theorem session (source : LineSource ι σ)
    (asked : ∀ input s s₁, sh.host.flush s = (.ok (), s₁) →
      R s (source.read sh.prompt input s₁).2.2)
    (env : Environment) (input : ι) (s : σ) : R s (sh.session source env input s).2.2.2 := by
  fun_induction Interpreter.session sh source env input s with
  | case1 env input s leaving r env' s' parted => simpa [parted] using c.farewell env s
  | case2 env input s staying e s₁ flushed => simpa [flushed] using c.flush s
  | case3 env input s staying s₁ flushed line input' s₂ read env' s' stepped ih =>
    have told : R s s₂ := by simpa [read] using asked input s s₁ flushed
    have ran : R s₂ s' := by simpa [stepped] using c.step along line env s₂
    exact c.trans told (c.trans ran ih)
  | case4 env input s staying s₁ flushed line input' s₂ read f env' s' stepped =>
    have told : R s s₂ := by simpa [read] using asked input s s₁ flushed
    have ran : R s₂ s' := by simpa [stepped] using c.step along line env s₂
    exact c.trans told ran
  | case5 env input s staying s₁ flushed input' s₂ read r env' s' ended =>
    have told : R s s₂ := by simpa [read] using asked input s s₁ flushed
    have closed : R s₂ s' := by simpa [ended] using c.endOfLines .endOfInput env s₂
    exact c.trans told closed
  | case6 env input s staying s₁ flushed f input' s₂ read r env' s' ended =>
    have told : R s s₂ := by simpa [read] using asked input s s₁ flushed
    have closed : R s₂ s' := by simpa [ended] using c.endOfLines (.readFailed f.chain) env s₂
    exact c.trans told closed

end

section
variable {host : Host σ} {R : σ → σ → Prop} (c : host.Carries R)
  (started : ∀ env name args s s₁, host.flush s = (.ok (), s₁) →
    R s (External.start host env name args s₁).2)
  (prompt : String) (source : LineSource ι σ)
  (asked : ∀ input s s₁, host.flush s = (.ok (), s₁) →
    R s (source.read prompt input s₁).2.2)
include c started asked

theorem use (env : Environment) (s : σ) (u : Use ι) :
    R s ((Interpreter.standard host prompt).use source env s u).2 := by
  have along := c.standard started
  cases u with
  | line text => exact c.executeLine along text env s
  | command name args => exact c.dispatch along name args env s
  | session input => exact c.session along source asked env input s

theorem uses (us : List (Use ι)) (env : Environment) (s : σ) :
    R s ((Interpreter.standard host prompt).uses source us env s).2 := by
  induction us generalizing env s with
  | nil => exact c.refl s
  | cons u us ih => exact c.trans (c.use started prompt source asked env s u) (ih _ _)

end

end Host.Carries

end SupervisedShell
