import SupervisedShell.Proofs.Session.Along
import SupervisedShell.Proofs.Supervision.Alike
/-!
All that a shell asks of the world, in order and with the answers: what it offers to the outlet, its
flushes, the lines that it reads, and its calls to the system. A recorded host is the host itself
with a list beside its state. What such lists obey is shown once for single acts; it then holds of
every use of a shell, and of uses in a row.
-/

set_option autoImplicit false

namespace SupervisedShell

variable {ι σ α μ : Type}

inductive Event where
  | write (bytes : Bytes) (answer : Except IoError Nat)
  | flush (answer : Except IoError Unit)
  | read (answer : Except Failure (Option String))
  | call (c : Call)

structure Journal (σ : Type) where
  world : σ
  events : List Event

namespace Journal

def start (s : σ) : Journal σ := ⟨s, []⟩

def note (f : σ → α × σ) (e : α → Event) (j : Journal σ) : α × Journal σ :=
  ((f j.world).1, ⟨(f j.world).2, j.events ++ [e (f j.world).1]⟩)

end Journal

def Host.journaled (host : Host σ) : Host (Journal σ) where
  write bytes := Journal.note (host.write bytes) (.write bytes)
  flush := Journal.note host.flush .flush
  facts path := Journal.note (host.facts path) fun a => .call (.facts path a)
  spawn l := Journal.note (host.spawn l) fun a => .call (.spawn l a)
  poll pid := Journal.note (host.poll pid) fun a => .call (.poll pid a)
  kill pid := Journal.note (host.kill pid) fun a => .call (.kill pid a)
  reap pid := Journal.note (host.reap pid) fun a => .call (.reap pid a)
  now := Journal.note host.now fun t => .call (.now t)
  sleep d j := ⟨host.sleep d j.world, j.events ++ [.call (.sleep d)]⟩
  log r j := ⟨host.log r j.world, j.events⟩
  readings moment j := host.readings moment j.world
  readings_log moment r j := host.readings_log moment r j.world
  readings_lt pid moment d j j' := host.readings_lt pid moment d j.world j'.world
  grants := host.grants

def LineSource.journaled (source : LineSource ι σ) : LineSource ι (Journal σ) where
  read prompt input j :=
    let (a, input, s) := source.read prompt input j.world
    (a, input, ⟨s, j.events ++ [.read a]⟩)
  left := source.left
  left_lt prompt input j line h := source.left_lt prompt input j.world line h

/-- What a shell without plug-ins asks of the world while it is used. -/
def Interpreter.asks (host : Host σ) (prompt : String) (source : LineSource ι σ)
    (us : List (Use ι)) (env : Environment) (s : σ) : List Event :=
  ((standard host.journaled prompt).uses source.journaled us env (.start s)).2.events

/-- Each event is one that is allowed by what has come of those before it. -/
def Heeds (step : μ → Event → μ) (allows : μ → Event → Prop) (m : μ)
    (events : List Event) : Prop :=
  ∀ pre e post, events = pre ++ e :: post → allows (pre.foldl step m) e

namespace Heeds

variable {step : μ → Event → μ} {allows : μ → Event → Prop} {m : μ}

@[simp] theorem nil : Heeds step allows m [] := by
  intro pre e post split
  simp at split

@[simp] theorem cons {e : Event} {es : List Event} :
    Heeds step allows m (e :: es) ↔ allows m e ∧ Heeds step allows (step m e) es := by
  constructor
  · intro h
    exact ⟨h [] e es rfl, fun pre e' post split => h (e :: pre) e' post (by rw [split]; rfl)⟩
  · rintro ⟨first, rest⟩ pre e' post split
    cases pre with
    | nil =>
      obtain ⟨rfl, -⟩ := List.cons.inj split
      exact first
    | cons d pre =>
      obtain ⟨rfl, later⟩ := List.cons.inj split
      exact rest pre e' post later

theorem append {xs ys : List Event} :
    Heeds step allows m (xs ++ ys) ↔
      Heeds step allows m xs ∧ Heeds step allows (xs.foldl step m) ys := by
  induction xs generalizing m with
  | nil => simp
  | cons x xs ih => simp only [List.cons_append, cons, ih, List.foldl_cons, and_assoc]

end Heeds

def Call.looksUp : Call → Bool
  | facts .. => true
  | _ => false

/-- The calls of a supervision. A launch may fail before there is a call, and a child that was
started is watched to its end. -/
inductive Supervised : List Call → Prop where
  | unasked : Supervised []
  | refused (l : Launch) (e : IoError) : Supervised [.spawn l (.error e)]
  | watched (l : Launch) (pid : Nat) (started : Instant) (rounds : List Round) (ending : Ending) :
    Supervised (.spawn l (.ok pid) :: .now started ::
      (rounds.flatMap (Round.calls pid) ++ ending.calls pid))

/-- The calls of a supervision with what has come of them. -/
inductive Supervision (limits : Limits) (l : Launch) :
    List Call → Except ProgramError Report → Prop where
  | unasked (nul : l.hasNul = true) :
      Supervision limits l [] (.error (.refused l.name .interiorNul))
  | refused (e : IoError) : Supervision limits l [.spawn l (.error e)] (.error (.refused l.name e))
  | watched (pid : Nat) (started : Instant) {rounds : List Round} {ending : Ending}
      (early : ∀ r ∈ rounds, r.Early limits started)
      (due : ending.Due (limits.deadline started)) :
    Supervision limits l
      (.spawn l (.ok pid) :: .now started :: (rounds.flatMap (Round.calls pid) ++ ending.calls pid))
      (ending.result limits ⟨l.name, .ofPid pid, started, .running⟩)

theorem Supervision.supervised {limits : Limits} {l : Launch} {calls : List Call}
    {r : Except ProgramError Report} (h : Supervision limits l calls r) : Supervised calls := by
  cases h with
  | unasked _ => exact .unasked
  | refused e => exact .refused l e
  | watched pid started _ _ => exact .watched l pid started _ _

/-- The calls of a launch behind the search, with what has come of them. -/
inductive Launched (found? : Option Bytes) (limits : Limits) (name : String) (args : List String) :
    List Call → Except ProgramError Report → Prop where
  | unresolved (missing : found? = none) :
      Launched found? limits name args [] (.error (.notFound name))
  | supervised {program : Bytes} {calls : List Call} {r : Except ProgramError Report}
      (found : found? = some program)
      (supervision : Supervision limits ⟨program, name, args⟩ calls r) :
    Launched found? limits name args calls r

theorem Launched.calls_supervised {found? : Option Bytes} {limits : Limits} {name : String}
    {args : List String} {calls : List Call} {r : Except ProgramError Report}
    (h : Launched found? limits name args calls r) :
    Supervised calls := by
  cases h with
  | unresolved _ => exact .unasked
  | supervised _ supervision => exact supervision.supervised

namespace Journal

def Adds (P : List Event → Prop) (j j' : Journal σ) : Prop :=
  ∃ es, j'.events = j.events ++ es ∧ P es

section
variable (host : Host σ)

theorem firstExecutable_looks (candidates : List Bytes) (j : Journal σ) :
    ∃ looks : List Call, (∀ c ∈ looks, c.looksUp) ∧
      (Search.firstExecutable host.journaled.toSystem candidates j).2.events =
        j.events ++ looks.map .call := by
  induction candidates generalizing j with
  | nil => exact ⟨[], by simp, by simp [Search.firstExecutable]⟩
  | cons candidate rest ih =>
    let look : Call := .facts candidate (host.facts candidate j.world).1
    let j' : Journal σ := ⟨(host.facts candidate j.world).2, j.events ++ [.call look]⟩
    have asked : host.journaled.facts candidate j = ((host.facts candidate j.world).1, j') := rfl
    obtain ⟨looks, all, events⟩ := ih j'
    have more : ∀ c ∈ look :: looks, c.looksUp := List.forall_mem_cons.mpr ⟨rfl, all⟩
    rcases known : (host.facts candidate j.world).1 with _ | facts
    · refine ⟨look :: looks, more, ?_⟩
      simp [Search.firstExecutable, asked, known, events, j']
    · by_cases executable : facts.isExecutable
      · exact ⟨[look], by simp [look, Call.looksUp], by
          simp [Search.firstExecutable, asked, known, executable, j']⟩
      · refine ⟨look :: looks, more, ?_⟩
        simp [Search.firstExecutable, asked, known, executable, events, j']

theorem program_looks (path? : Option Bytes) (name : Bytes) (j : Journal σ) :
    ∃ looks : List Call, (∀ c ∈ looks, c.looksUp) ∧
      (Search.program host.journaled.toSystem path? name j).2.events =
        j.events ++ looks.map .call := by
  unfold Search.program
  split
  · exact ⟨[], by simp, by simp⟩
  · split
    · refine ⟨[.facts name (host.facts name j.world).1], by simp [Call.looksUp], ?_⟩
      rcases known : (host.facts name j.world).1 <;> simp [Host.journaled, note, known]
    · cases path? with
      | none => exact ⟨[], by simp, by simp⟩
      | some path => exact firstExecutable_looks host _ j

/-- A journal behind a given past, against the calls of a traced system. -/
def Mirrors (past : List Event) (w : Traced σ) (j : Journal σ) : Prop :=
  w.world = j.world ∧ j.events = past ++ w.calls.map .call

theorem mirrors_like (past : List Event) :
    host.toSystem.traced.Like host.journaled.toSystem (Mirrors past) := by
  have ask {α : Type} (f : σ → α × σ) (c : α → Call) (w : Traced σ) (j : Journal σ)
      (h : Mirrors past w j) :
      Alike (Mirrors past) (w.ask f c) (j.note f fun a => .call (c a)) := by
    obtain ⟨same, events⟩ := h
    refine ⟨?_, ?_, ?_⟩
    · simp [Traced.ask, note, same]
    · simp [Traced.ask, note, same]
    · simp [Traced.ask, note, same, events]
  refine ⟨fun _ => ask _ _, fun _ => ask _ _, fun _ => ask _ _, fun _ => ask _ _,
    fun _ => ask _ _, ask _ _, ?_, ?_⟩
  · rintro d w j ⟨same, events⟩
    exact ⟨congrArg (host.sleep d) same, by simp [Host.journaled, System.traced, events]⟩
  · rintro r w j ⟨same, events⟩
    exact ⟨congrArg (host.log r) same, events⟩

end

end Journal

theorem supervise_traced (sys : System σ) (limits : Limits) (l : Launch) (w : Traced σ) :
    ∃ calls, (supervise sys.traced limits l w).2.calls = w.calls ++ calls ∧
      Supervision limits l calls (supervise sys.traced limits l w).1 := by
  rcases spawned : Handle.spawn sys.traced l w with ⟨e | h, w₁⟩
  · simp only [supervise, spawned]
    unfold Handle.spawn at spawned
    by_cases nul : l.hasNul
    · simp only [nul, if_true, Prod.mk.injEq, Except.error.injEq] at spawned
      obtain ⟨rfl, rfl⟩ := spawned
      exact ⟨[], (List.append_nil _).symm, .unasked nul⟩
    · rcases made : sys.spawn l w.world with ⟨e' | pid, s⟩
      · simp only [nul, System.traced_spawn, made, Bool.false_eq_true, if_false, Prod.mk.injEq,
          Except.error.injEq] at spawned
        obtain ⟨rfl, rfl⟩ := spawned
        exact ⟨_, rfl, .refused e'⟩
      · simp [nul, made] at spawned
  · obtain ⟨pid, started, rfl, calls⟩ := Handle.spawn_traced spawned
    obtain ⟨rounds, ending, s, early, due, -, watched⟩ := Handle.watch_traced sys limits
      (h := ⟨l.name, .ofPid pid, started, .running⟩) rfl w₁
    simp only [supervise, spawned, Handle.wait_eq_watch, watched]
    refine ⟨_, ?_, .watched pid started early due⟩
    simp only [calls, List.append_assoc]
    rfl

/-- A journal has the world of the host itself, and its answers. -/
theorem Journal.world_like (host : Host σ) :
    host.journaled.toSystem.Like host.toSystem fun j s => j.world = s := by
  have ask {α : Type} (f : σ → α × σ) (e : α → Event) (j : Journal σ) (s : σ)
      (same : j.world = s) :
      Alike (fun j s => j.world = s) (j.note f e) (f s) := by
    subst same
    exact ⟨rfl, rfl⟩
  refine ⟨fun _ => ask _ _, fun _ => ask _ _, fun _ => ask _ _, fun _ => ask _ _,
    fun _ => ask _ _, ask _ _, ?_, ?_⟩
  · rintro d j _ rfl
    rfl
  · rintro r j _ rfl
    rfl

/-- A launch looks files up, and then there are the calls of its supervision. -/
theorem start_launched (host : Host σ) (env : Environment) (name : String) (args : List String)
    (j : Journal σ) :
    ∃ looks calls : List Call, (∀ c ∈ looks, c.looksUp) ∧
      (External.start host.journaled env name args j).2.events =
        j.events ++ (looks ++ calls).map .call ∧
      Launched (Search.program host.toSystem env.searchPath? (Utf8.encode name) j.world).1
        env.limits name args calls
        (External.start host.journaled env name args j).1 := by
  obtain ⟨looks, all, events⟩ := Journal.program_looks host env.searchPath? (Utf8.encode name) j
  obtain ⟨found?, j₁, s₁, onJ, onS, same₁⟩ :=
    (Search.program_alike (Journal.world_like host) env.searchPath? (Utf8.encode name)
      (rfl : j.world = _)).split
  have events : j₁.events = j.events ++ looks.map .call := by rwa [onJ] at events
  rw [onS]
  cases found? with
  | none =>
    refine ⟨looks, [], all, ?_, ?_⟩
    · simp [External.start, onJ, events]
    · simpa [External.start, onJ] using .unresolved rfl
  | some program =>
    have mirrored : Journal.Mirrors j₁.events (.start j₁.world) j₁ :=
      ⟨rfl, by simp [Traced.start]⟩
    obtain ⟨answer, -, told⟩ :=
      supervise_alike (Journal.mirrors_like host j₁.events) env.limits
      ⟨program, name, args⟩ mirrored
    obtain ⟨calls, traced, supervision⟩ :=
      supervise_traced host.toSystem env.limits ⟨program, name, args⟩
      (.start j₁.world)
    refine ⟨looks, calls, all, ?_, ?_⟩
    · simp only [External.start, onJ, told, traced, events]
      simp [Traced.start]
    · rw [answer] at supervision
      simpa [External.start, onJ] using Launched.supervised rfl supervision

/-- What holds of each act of a shell, and of acts in a row. A line is read, and a program is looked
for, right behind a flush that has worked. -/
structure Discipline (P : List Event → Prop) : Prop where
  nil : P []
  append : ∀ {xs ys}, P xs → P ys → P (xs ++ ys)
  write : ∀ bytes a, P [.write bytes a]
  flush : ∀ a, P [.flush a]
  read : ∀ a, P [.flush (.ok ()), .read a]
  launch : ∀ {looks calls : List Call}, (∀ c ∈ looks, c.looksUp) → Supervised calls →
    P (.flush (.ok ()) :: (looks ++ calls).map .call)

namespace Discipline

variable {P : List Event → Prop} (d : Discipline P) (host : Host σ)
include d

theorem carries : host.journaled.Carries (Journal.Adds P) where
  refl j := ⟨[], by simp, d.nil⟩
  trans := by
    rintro j j' j'' ⟨xs, first, hx⟩ ⟨ys, second, hy⟩
    exact ⟨xs ++ ys, by rw [second, first, List.append_assoc], d.append hx hy⟩
  write b rest j := ⟨_, rfl, d.write (b :: rest) _⟩
  flush j := ⟨_, rfl, d.flush _⟩
  log r j := ⟨[], by simp [Host.journaled], d.nil⟩

variable {host} {j j₁ : Journal σ} (flushed : host.journaled.flush j = (.ok (), j₁))
include flushed

theorem started (env : Environment) (name : String) (args : List String) :
    j.Adds P (External.start host.journaled env name args j₁).2 := by
  obtain ⟨looks, calls, all, events, launched⟩ := start_launched host env name args j₁
  obtain ⟨answered, rfl⟩ := Prod.mk.inj flushed
  refine ⟨_, ?_, d.launch all launched.calls_supervised⟩
  rw [events]
  simp [answered]

theorem asked (source : LineSource ι σ) (prompt : String) (input : ι) :
    j.Adds P (source.journaled.read prompt input j₁).2.2 := by
  obtain ⟨answered, rfl⟩ := Prod.mk.inj flushed
  refine ⟨_, ?_, d.read (source.read prompt input (host.flush j.world).2).1⟩
  simp [LineSource.journaled, answered]

omit flushed

variable (host : Host σ) (prompt : String) (source : LineSource ι σ) (us : List (Use ι))
  (env : Environment)

theorem uses (j : Journal σ) :
    j.Adds P ((Interpreter.standard host.journaled prompt).uses source.journaled us env j).2 :=
  (d.carries host).uses (fun env name args _ _ flushed => d.started flushed env name args) prompt
    source.journaled (fun input _ _ flushed => d.asked flushed source prompt input) us env j

theorem asks (s : σ) : P (Interpreter.asks host prompt source us env s) := by
  obtain ⟨es, events, kept⟩ := d.uses host prompt source us env (.start s)
  have same : Interpreter.asks host prompt source us env s = es := events
  rwa [same]

end Discipline

end SupervisedShell
