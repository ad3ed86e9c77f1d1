import SupervisedShell.Supervisor.Child
import SupervisedShell.Supervisor.Limits
/-!
A started program in the care of the supervisor. The handle is polled, waited for, or dropped; a
program that still runs when its handle goes is killed and reaped, and so is one whose status could
not be looked up.
-/

set_option autoImplicit false

namespace SupervisedShell

/-- Why a program gave no outcome. -/
inductive ProgramError where
  | notFound (name : String)
  | refused (name : String) (cause : IoError)
  | lost (name : String) (pid : Nat) (cause : IoError)
  deriving DecidableEq, Repr

namespace ProgramError

def message : ProgramError → String
  | notFound name => s!"{name}: command not found"
  | refused name cause => s!"{name}: failed to execute: {cause.message}"
  | lost name pid cause => s!"{name}: lost track of process {pid}: {cause.message}"

def pieces : ProgramError → List String
  | notFound name => [name, ": command not found"]
  | refused name cause => [name, ": failed to execute: "] ++ cause.pieces
  | lost name pid cause =>
    [name, ": lost track of process ", toString pid, ": "] ++ cause.pieces

@[simp] theorem join_pieces (e : ProgramError) : String.join e.pieces = e.message := by
  cases e <;> simp [pieces, message, toString, String.append_assoc]

def exitCode : ProgramError → ExitCode
  | notFound _ => ExitCode.notFound
  | refused .. => ExitCode.cannotExecute
  | lost .. => ExitCode.failure

end ProgramError

/-- A child as the supervisor last saw it. -/
inductive Liveness where
  | running
  | finished (outcome : Outcome)
  | lookupFailed
  deriving DecidableEq, Repr

structure Report where
  pid : Nat
  elapsed : Duration
  outcome : Outcome
  deriving DecidableEq, Repr

structure Handle where
  name : String
  child : Child
  started : Instant
  state : Liveness
  deriving DecidableEq, Repr

def Launch.hasNul (l : Launch) : Bool :=
  l.program.contains 0 || (l.name :: l.args).any (fun t => t.toList.contains '\x00')

namespace Handle

variable {σ : Type}

def pid (h : Handle) : Nat := h.child.pid

def spawn (sys : System σ) (l : Launch) (s : σ) : Except ProgramError Handle × σ :=
  if l.hasNul then (.error (.refused l.name .interiorNul), s)
  else
    match sys.spawn l s with
    | (.error e, s) => (.error (.refused l.name e), s)
    | (.ok pid, s) =>
      let s := sys.log (.spawned l.name l.program pid) s
      let (started, s) := sys.now s
      (.ok ⟨l.name, .ofPid pid, started, .running⟩, s)

/-- Kills with a signal that cannot be caught, then waits, so that nothing of the child stays. -/
def killAndReap (sys : System σ) (h : Handle) (s : σ) : Handle × σ :=
  let s :=
    match h.child.kill sys s with
    | (.ok (), s) => s
    | (.error e, s) => sys.log (.killFailed h.pid e) s
  match h.child.reap sys s with
  | (.ok status, child, s) => ({ h with child := child }, sys.log (.reaped h.pid status) s)
  | (.error e, child, s) => ({ h with child := child }, sys.log (.reapFailed h.pid e) s)

def poll (sys : System σ) (h : Handle) (s : σ) :
    Except ProgramError (Option Outcome) × Handle × σ :=
  match h.child.poll sys s with
  | (.ok (some status), child, s) =>
    let outcome := Outcome.ofStatus status
    (.ok (some outcome), { h with child := child, state := .finished outcome }, s)
  | (.ok none, _, s) => (.ok none, h, s)
  | (.error e, child, s) =>
    let s := sys.log (.queryFailed h.name h.pid e) s
    let (h, s) := { h with child := child, state := .lookupFailed }.killAndReap sys s
    (.error (.lost h.name h.pid e), h, s)

def report (sys : System σ) (h : Handle) (outcome : Outcome) (s : σ) : Report × σ :=
  let (now, s) := sys.now s
  (⟨h.pid, now.since h.started, outcome⟩, sys.log (.finished h.name h.pid outcome) s)

def expire (sys : System σ) (limits : Limits) (h : Handle) (s : σ) : Report × Handle × σ :=
  let s := sys.log (.overdue h.name h.pid limits.timeout) s
  let (h, s) := h.killAndReap sys s
  let outcome := Outcome.timedOut limits.timeout
  let h := { h with state := .finished outcome }
  let (r, s) := h.report sys outcome s
  (r, h, s)

theorem poll_running {sys : System σ} {h h' : Handle} {s s' : σ}
    (seen : h.poll sys s = (.ok none, h', s')) : h' = h ∧ s' = (sys.poll h.pid s).2 := by
  simp only [poll] at seen
  split at seen
  · simp at seen
  · next child s'' childSeen =>
    obtain ⟨-, rfl⟩ := Child.poll_running childSeen
    simp only [Prod.mk.injEq, true_and] at seen
    exact ⟨seen.1.symm, seen.2.symm⟩
  · simp at seen

def watch (sys : System σ) (limits : Limits) (h : Handle) (s : σ) :
    Except ProgramError Report × Handle × σ :=
  match _seen : h.poll sys s with
  | (.error e, h, s) => (.error e, h, s)
  | (.ok (some outcome), h, s) =>
    let (r, s) := h.report sys outcome s
    (.ok r, h, s)
  | (.ok none, _, s') =>
    if (limits.deadline h.started).nanos ≤ (sys.now s').1.nanos then
      let (r, h, s) := h.expire sys limits (sys.now s').2
      (.ok r, h, s)
    else
      let s := sys.log (.stillRunning h.pid) (sys.now s').2
      h.watch sys limits (sys.sleep (limits.pause h.started (sys.now s').1) s)
termination_by sys.readings (limits.deadline h.started) s
decreasing_by
  obtain ⟨_, rfl⟩ := poll_running _seen
  exact sys.readings_lt _ _ _ _ _ (by omega) (sys.readings_log _ _ _)

def drop (sys : System σ) (h : Handle) (s : σ) : σ :=
  if h.state = .running then (h.killAndReap sys s).2 else s

def wait (sys : System σ) (limits : Limits) (h : Handle) (s : σ) :
    Except ProgramError Report × σ :=
  let (r, h, s) := h.watch sys limits s
  (r, h.drop sys s)

/-- A deadline that the clock cannot hold makes the wait break off before the first look at the
child. The handle is dropped on the way out, and nobody gets a result. -/
def wait? (sys : System σ) (limits : Limits) (h : Handle) (s : σ) :
    Option (Except ProgramError Report) × σ :=
  match limits.deadline? h.started with
  | none => (none, h.drop sys s)
  | some _ =>
    let (r, s) := h.wait sys limits s
    (some r, s)

end Handle

def supervise {σ : Type} (sys : System σ) (limits : Limits) (l : Launch) (s : σ) :
    Except ProgramError Report × σ :=
  match Handle.spawn sys l s with
  | (.error e, s) => (.error e, s)
  | (.ok h, s) => h.wait sys limits s

end SupervisedShell
