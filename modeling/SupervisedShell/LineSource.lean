import SupervisedShell.Command

set_option autoImplicit false

namespace SupervisedShell

structure LineSource (ι σ : Type) where
  read : String → ι → σ → Except Failure (Option String) × ι × σ
  left : ι → Nat
  left_lt : ∀ (prompt : String) (i : ι) (s : σ) (line : String),
    (read prompt i s).1 = .ok (some line) → left (read prompt i s).2.1 < left i

/-- Lines recorded beforehand, one handed out per prompt. -/
structure Recording where
  lines : List String
  prompts : List String
  failsAtEnd : Bool
  deriving DecidableEq, Repr

namespace Recording

def ofLines (lines : List String) (failsAtEnd : Bool) : Recording := ⟨lines, [], failsAtEnd⟩

def remaining (r : Recording) : Nat := r.lines.length

def read (r : Recording) (prompt : String) : Except Failure (Option String) × Recording :=
  let prompts := r.prompts ++ [prompt]
  match r.lines with
  | line :: lines => (.ok (some line), ⟨lines, prompts, r.failsAtEnd⟩)
  | [] => (if r.failsAtEnd then .error .inputGone else .ok none, ⟨[], prompts, r.failsAtEnd⟩)

theorem remaining_read {r : Recording} {prompt line : String}
    (h : (r.read prompt).1 = .ok (some line)) : (r.read prompt).2.remaining < r.remaining := by
  unfold read at h ⊢
  split
  · simp_all [remaining]
  · split at h <;> simp_all
    split at h <;> simp_all

def source (σ : Type) : LineSource Recording σ where
  read prompt r s := ((r.read prompt).1, (r.read prompt).2, s)
  left := remaining
  left_lt _ _ _ _ h := remaining_read h

end Recording

end SupervisedShell
