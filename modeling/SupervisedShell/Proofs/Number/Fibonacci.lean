import Mathlib.Data.Nat.Fib.Basic
import SupervisedShell.Fibonacci
/-!
The climb reaches the mathematical Fibonacci number wherever it fits, and nothing anywhere else:
since the numbers grow, the first sum that does not fit says so of all numbers behind it. That sum
is the 92nd, so no climb is longer.
-/

set_option autoImplicit false

namespace SupervisedShell.Fibonacci

theorem climb_value (steps k made : Nat) (fits : Nat.fib (k + 1) ≤ largest) :
    (climb steps (Nat.fib k) (Nat.fib (k + 1)) made).value? =
      if Nat.fib (k + 1 + steps) ≤ largest then some (Nat.fib (k + 1 + steps)) else none := by
  -- The two neighbours move on with every step, so the induction is over all of them.
  induction steps generalizing k made with
  | zero => simp [climb, fits]
  | succ steps ih =>
    have sum : Nat.fib k + Nat.fib (k + 1) = Nat.fib (k + 1 + 1) := Nat.fib_add_two.symm
    have shifted : k + 1 + 1 + steps = k + 1 + (steps + 1) := by omega
    rw [climb, sum]
    by_cases next : Nat.fib (k + 1 + 1) ≤ largest
    · rw [if_pos next, ih (k + 1) (made + 1) next, shifted]
    · have grows : Nat.fib (k + 1 + 1) ≤ Nat.fib (k + 1 + (steps + 1)) := Nat.fib_mono (by omega)
      have large : ¬ Nat.fib (k + 1 + (steps + 1)) ≤ largest :=
        fun h => next (Nat.le_trans grows h)
      rw [if_neg next, if_neg large]

theorem checked_eq (n : Nat) :
    checked n = if Nat.fib n ≤ largest then some (Nat.fib n) else none := by
  cases n with
  | zero => rfl
  | succ n =>
    have climbed := climb_value n 0 0 (by decide)
    rw [Nat.zero_add, Nat.add_comm 1 n] at climbed
    exact climbed

theorem compute_of_fits {n : Nat} (fits : Nat.fib n ≤ largest) : compute n = Nat.fib n := by
  rw [compute, checked_eq, if_pos fits]
  rfl

theorem compute_of_large {n : Nat} (large : largest < Nat.fib n) : compute n = overflow := by
  rw [compute, checked_eq, if_neg (Nat.not_le_of_lt large)]
  rfl

theorem fib_le_largest_iff (n : Nat) : Nat.fib n ≤ largest ↔ n ≤ 92 := by
  constructor
  · intro fits
    by_contra beyond
    have grows : Nat.fib 93 ≤ Nat.fib n := Nat.fib_mono (by omega)
    have large : ¬ Nat.fib 93 ≤ largest := by decide
    exact large (Nat.le_trans grows fits)
  · intro within
    have grows : Nat.fib n ≤ Nat.fib 92 := Nat.fib_mono within
    have last : Nat.fib 92 ≤ largest := by decide
    exact Nat.le_trans grows last

theorem climb_additions (steps k made : Nat) (fits : Nat.fib (k + 1) ≤ largest) :
    (climb steps (Nat.fib k) (Nat.fib (k + 1)) made).additions = made + min steps (92 - k) := by
  have start := (fib_le_largest_iff (k + 1)).mp fits
  -- The sum that does not fit is counted too: it is made in order to find that out.
  induction steps generalizing k made with
  | zero => simp [climb]
  | succ steps ih =>
    have sum : Nat.fib k + Nat.fib (k + 1) = Nat.fib (k + 1 + 1) := Nat.fib_add_two.symm
    rw [climb, sum]
    by_cases next : Nat.fib (k + 1 + 1) ≤ largest
    · have within := (fib_le_largest_iff (k + 1 + 1)).mp next
      rw [if_pos next, ih (k + 1) (made + 1) next within]
      omega
    · have beyond := mt (fib_le_largest_iff (k + 1 + 1)).mpr next
      rw [if_neg next]
      change made + 1 = made + min (steps + 1) (92 - k)
      omega

theorem reach_additions (n : Nat) : (reach n).additions = min (n - 1) 92 := by
  cases n with
  | zero => rfl
  | succ n =>
    have climbed := climb_additions n 0 0 (by decide)
    rw [Nat.add_sub_cancel]
    exact climbed.trans (Nat.zero_add _)

/-- Where the Fibonacci number fits a signed word of 64 bits, it is reached; where it does not,
nothing is, and the shown number is -1. Both take 92 additions at most. -/
theorem exact_and_prompt (n : Nat) :
    checked n = (if Nat.fib n ≤ 2 ^ 63 - 1 then some (Nat.fib n) else none) ∧
      compute n = (if Nat.fib n ≤ 2 ^ 63 - 1 then (Nat.fib n : Int) else -1) ∧
      (compute n = -1 ↔ checked n = none) ∧
      (checked n = none ↔ 92 < n) ∧
      (reach n).additions = min (n - 1) 92 := by
  have word : 2 ^ 63 - 1 = largest := by decide
  rw [word]
  by_cases fits : Nat.fib n ≤ largest
  · have value : checked n = some (Nat.fib n) := by rw [checked_eq, if_pos fits]
    have within := (fib_le_largest_iff n).mp fits
    have positive : ¬ (Nat.fib n : Int) = -1 := by omega
    rw [if_pos fits, if_pos fits, compute_of_fits fits, value]
    exact ⟨rfl, rfl, iff_of_false positive (by simp), iff_of_false (by simp) (by omega),
      reach_additions n⟩
  · have value : checked n = none := by rw [checked_eq, if_neg fits]
    have beyond := mt (fib_le_largest_iff n).mpr fits
    rw [if_neg fits, if_neg fits, compute_of_large (Nat.lt_of_not_le fits), value]
    exact ⟨rfl, rfl, iff_of_true rfl rfl, iff_of_true rfl (by omega), reach_additions n⟩

/-- The last index that 64 bits hold. -/
example : reach 18446744073709551615 = ⟨none, 92⟩ := by cbv

end SupervisedShell.Fibonacci
