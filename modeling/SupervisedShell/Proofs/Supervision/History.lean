import SupervisedShell.Proofs.Supervision.Custody

set_option autoImplicit false

namespace SupervisedShell

variable {σ : Type}

namespace Handle

def polls (sys : System σ) :
    Nat → Handle → σ → List (Except ProgramError (Option Outcome)) × Handle × σ
  | 0, h, s => ([], h, s)
  | n + 1, h, s =>
    let (a, h, s) := h.poll sys s
    let (rest, h, s) := polls sys n h s
    (a :: rest, h, s)

@[simp] theorem polls_zero (sys : System σ) (h : Handle) (s : σ) : h.polls sys 0 s = ([], h, s) :=
  rfl

theorem polls_succ (sys : System σ) (n : Nat) (h : Handle) (s : σ) : h.polls sys (n + 1) s =
    ((h.poll sys s).1 :: ((h.poll sys s).2.1.polls sys n (h.poll sys s).2.2).1,
      ((h.poll sys s).2.1.polls sys n (h.poll sys s).2.2).2) := rfl

@[simp] theorem started_polls (sys : System σ) (n : Nat) (h : Handle) (s : σ) :
    (h.polls sys n s).2.1.started = h.started := by
  induction n generalizing h s with
  | zero => rfl
  | succ n ih => simp [polls_succ, ih]

def Remembers (h : Handle) (o : Outcome) : Prop :=
  h.state = .finished o ∧ ∃ status, h.child.status? = some status ∧ o = .ofStatus status

theorem Remembers.polls {sys : System σ} {h : Handle} {o : Outcome} (m : h.Remembers o) (n : Nat)
    (s : σ) : h.polls sys n s = (List.replicate n (.ok (some o)), h, s) := by
  obtain ⟨state, status, known, rfl⟩ := m
  have again (s : σ) : h.poll sys s = (.ok (some (.ofStatus status)), h, s) := by
    rw [poll_of_known sys known, ← state]
  induction n with
  | zero => rfl
  | succ n ih => simp [polls_succ, again, ih, List.replicate_succ]

end Handle

theorem Custody.polls (sys : System σ) (n : Nat) {h : Handle} {w : Traced σ}
    (c : Custody h w.calls) :
    Custody (h.polls sys.traced n w).2.1 (h.polls sys.traced n w).2.2.calls := by
  induction n generalizing h w with
  | zero => exact c
  | succ n ih => exact ih (c.poll sys)

/-- How a handle is given up. -/
inductive Parting where
  | drop
  | wait (limits : Limits)
  deriving DecidableEq

namespace Parting

def leaves (sys : System σ) (p : Parting) (h : Handle) (s : σ) : Handle × σ :=
  match p with
  | drop => (h, s)
  | wait limits =>
    match limits.deadline? h.started with
    | none => (h, s)
    | some _ => (h.watch sys limits s).2

def part (sys : System σ) (p : Parting) (h : Handle) (s : σ) : σ :=
  match p with
  | drop => h.drop sys s
  | wait limits => (h.wait? sys limits s).2

end Parting

/-- A wait that breaks off at its deadline leaves the child to the drop. -/
example : (Parting.part Rehearsal.system.traced (.wait ⟨.ofSecs (2 ^ 64 - 1), ⟨1⟩⟩)
    ⟨"sleep", .ofPid 1, ⟨0⟩, .running⟩
      (.start ⟨[], .ok (), .ok (.signaled 9 false), ⟨0⟩⟩)).calls =
      [.kill 1 (.ok ()), .reap 1 (.ok (.signaled 9 false))] := rfl

end SupervisedShell
