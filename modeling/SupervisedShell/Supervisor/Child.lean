import SupervisedShell.System.Basic

set_option autoImplicit false

namespace SupervisedShell

structure Child where
  pid : Nat
  status? : Option WaitStatus
  deriving DecidableEq, Repr

namespace Child

variable {σ : Type}

def ofPid (pid : Nat) : Child := ⟨pid, none⟩

def poll (sys : System σ) (c : Child) (s : σ) :
    Except IoError (Option WaitStatus) × Child × σ :=
  match c.status? with
  | some status => (.ok (some status), c, s)
  | none =>
    match sys.poll c.pid s with
    | (.ok (some status), s) => (.ok (some status), { c with status? := some status }, s)
    | (.ok none, s) => (.ok none, c, s)
    | (.error e, s) => (.error e, c, s)

theorem poll_running {sys : System σ} {c c' : Child} {s s' : σ}
    (seen : c.poll sys s = (.ok none, c', s')) : c' = c ∧ s' = (sys.poll c.pid s).2 := by
  simp only [poll] at seen
  split at seen
  · simp at seen
  · split at seen <;> simp_all

/-- A number whose child is gone may belong to another by now, so it is not signalled. -/
def kill (sys : System σ) (c : Child) (s : σ) : Except IoError Unit × σ :=
  match c.status? with
  | some _ => (.ok (), s)
  | none => sys.kill c.pid s

def reap (sys : System σ) (c : Child) (s : σ) : Except IoError WaitStatus × Child × σ :=
  match c.status? with
  | some status => (.ok status, c, s)
  | none =>
    match sys.reap c.pid s with
    | (.ok status, s) => (.ok status, { c with status? := some status }, s)
    | (.error e, s) => (.error e, c, s)

end Child

end SupervisedShell
