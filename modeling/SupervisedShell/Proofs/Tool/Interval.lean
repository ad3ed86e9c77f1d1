import Mathlib.Algebra.Order.Floor.Semiring
import Mathlib.Data.Rat.Floor
import SupervisedShell.Tool.Interval
/-!
How long a program rests when it is told a length of time: the exact length, made up to the next
nanosecond.
-/

set_option autoImplicit false

namespace SupervisedShell

namespace Numeral

/-- The number itself, but for infinities. -/
def exact : Numeral → ℚ
  | finite digits base places factor e => digits / base ^ places * factor ^ e
  | infinite => 0

theorem ceil_div (above : Nat) {below : Nat} (pos : 0 < below) :
    (above + below - 1) / below = ⌈(above : ℚ) / below⌉₊ := by
  refine eq_of_forall_ge_iff fun n => ?_
  have step : (above + below - 1) / below ≤ n ↔ above ≤ n * below := by
    rw [← Nat.lt_succ_iff, Nat.div_lt_iff_lt_mul pos, Nat.succ_mul]
    omega
  rw [step, Nat.ceil_le, div_le_iff₀ (by exact_mod_cast pos)]
  exact_mod_cast Iff.rfl

theorem zpow_parts (factor : ℚ) (e : Int) :
    factor ^ e = factor ^ e.toNat / factor ^ (-e).toNat := by
  rcases Int.le_total 0 e with pos | neg
  · obtain ⟨n, rfl⟩ := Int.eq_ofNat_of_zero_le pos
    simp
  · obtain ⟨n, same⟩ := Int.eq_ofNat_of_zero_le (Int.neg_nonneg_of_nonpos neg)
    obtain rfl : e = -n := by omega
    simp

/-- A number of moderate size times a whole number is made up to the next whole number. -/
theorem times?_eq {digits base places factor : Nat} {e : Int} (base_pos : 0 < base)
    (factor_pos : 0 < factor) (moderate : e.natAbs ≤ hugeExponent) (nanos : Nat) :
    (finite digits base places factor e).times? nanos =
      some ⌈(finite digits base places factor e).exact * nanos⌉₊ := by
  let above := digits * nanos * factor ^ e.toNat
  let below := base ^ places * factor ^ (-e).toNat
  have pos : 0 < below := Nat.mul_pos (Nat.pow_pos base_pos) (Nat.pow_pos factor_pos)
  have whole : (finite digits base places factor e).exact * nanos = (above : ℚ) / below := by
    simp only [exact, zpow_parts, above, below]
    push_cast
    ring
  rw [whole, ← ceil_div above pos, times?]
  split
  · next nothing =>
    have zero : above = 0 := by simp only [above, nothing, Nat.zero_mul]
    rw [zero, Nat.zero_add, Nat.div_eq_of_lt (Nat.sub_one_lt (Nat.ne_of_gt pos))]
  · next something =>
    rw [if_neg (by omega), if_neg (by omega)]
    rfl

variable {ds fs rest : List Char}

/-- The characters that numbers with a base of ten end before. -/
def Ends (rest : List Char) : Prop :=
  ∀ c ∈ rest.head?,
    c.isDigit = false ∧ c ≠ '.' ∧ c ≠ 'e' ∧ c ≠ 'E' ∧ c ≠ 'x' ∧ c ≠ 'X'

theorem any_digit?_lt_ten (c : Char) : (digit? c).any (· < 10) = c.isDigit := by
  unfold digit?
  by_cases digit : c.isDigit = true
  · have last : c.toNat ≤ 57 := by
      simp only [Char.isDigit, Bool.and_eq_true, decide_eq_true_eq] at digit
      exact digit.2
    have less : c.toNat - '0'.toNat < 10 := Nat.lt_succ_of_le (Nat.sub_le_sub_right last 48)
    rw [if_pos digit, Option.any_some, digit, decide_eq_true less]
  · rw [if_neg digit]
    split
    · simp [digit]
    · split <;> simp [digit]

theorem digitsOf_append (digits : ∀ c ∈ ds, c.isDigit = true)
    (stop : ∀ c ∈ rest.head?, c.isDigit = false) : digitsOf 10 (ds ++ rest) = ds := by
  simp only [digitsOf, any_digit?_lt_ten]
  rw [List.takeWhile_append_of_pos digits]
  cases rest with
  | nil => simp
  | cons c rest => simp [stop c rfl]

theorem pointed?_whole (digits : ∀ c ∈ ds, c.isDigit = true) (nonempty : ds ≠ [])
    (ends : Ends rest) : pointed? 10 (ds ++ rest) = some (value 10 ds, 0, rest) := by
  have whole := digitsOf_append digits fun c known => (ends c known).1
  unfold pointed?
  simp only [whole, List.drop_left]
  cases rest with
  | nil => simp [nonempty]
  | cons c rest =>
    obtain ⟨-, point, -⟩ := ends c rfl
    split
    · next same => exact absurd (List.cons.inj same).1 point
    · simp [nonempty]

theorem pointed?_fraction (digits : ∀ c ∈ ds, c.isDigit = true)
    (behind : ∀ c ∈ fs, c.isDigit = true) (nonempty : ds ≠ []) (ends : Ends rest) :
    pointed? 10 (ds ++ '.' :: (fs ++ rest)) = some (value 10 (ds ++ fs), fs.length, rest) := by
  have whole : digitsOf 10 (ds ++ '.' :: (fs ++ rest)) = ds :=
    digitsOf_append digits fun c known => by cases known; rfl
  have fraction := digitsOf_append behind fun c known => (ends c known).1
  unfold pointed?
  simp only [whole, List.drop_left, fraction]
  simp [nonempty]

theorem hexadecimal?_eq_none {s : List Char}
    (plain : ∀ c ∈ s.tail.head?, c ≠ 'x' ∧ c ≠ 'X') : hexadecimal? s = none := by
  unfold hexadecimal?
  split
  · next x s => rw [if_pos (plain x rfl)]
  · rfl

theorem exponent_eq (ends : Ends rest) : exponent 'e' 'E' rest = (0, rest) := by
  cases rest with
  | nil => rfl
  | cons c rest =>
    obtain ⟨-, -, lower, upper, -⟩ := ends c rfl
    simp [exponent, lower, upper]

theorem isSpace_of_isDigit {c : Char} (digit : c.isDigit = true) : isSpace c = false := by
  refine Bool.eq_false_iff.mpr fun space => ?_
  simp only [isSpace, List.contains_iff_mem, List.mem_cons, List.not_mem_nil, or_false] at space
  rcases space with rfl | rfl | rfl | rfl | rfl | rfl <;> cases digit

theorem read?_eq {c : Char} {s : List Char} {n places : Nat} (digit : c.isDigit = true)
    (plain : ∀ d ∈ s.head?, d ≠ 'x' ∧ d ≠ 'X')
    (pointed : pointed? 10 (c :: s) = some (n, places, rest)) (ends : Ends rest) :
    read? (c :: s) = some (false, .finite n 10 places 10 0, rest) := by
  have decimal : decimal? (c :: s) = some (.finite n 10 places 10 0, rest) := by
    simp only [decimal?, pointed, Option.map_some, exponent_eq ends]
  have hexadecimal : hexadecimal? (c :: s) = none := hexadecimal?_eq_none plain
  have blank : ¬ isSpace c = true := by simp [isSpace_of_isDigit digit]
  have minus : c ≠ '-' := by rintro rfl; cases digit
  have plus : c ≠ '+' := by rintro rfl; cases digit
  simp [read?, blank, minus, plus, hexadecimal, decimal]

end Numeral

namespace Interval

open Numeral

variable {ds fs u : List Char} {seconds : Nat}

theorem ends_of_unit (unit : unit? u = some seconds) : Ends u := by
  have one {c : Char}
      (apart : c.isDigit = false ∧ c ≠ '.' ∧ c ≠ 'e' ∧ c ≠ 'E' ∧
        c ≠ 'x' ∧ c ≠ 'X') :
      Ends [c] := by
    intro d known
    cases known
    exact apart
  unfold unit? at unit
  split at unit
  · nofun
  · exact one (by decide)
  · exact one (by decide)
  · exact one (by decide)
  · exact one (by decide)
  · cases unit

theorem plain_head (digits : ∀ c ∈ ds, c.isDigit = true)
    (plain : ∀ c ∈ u.head?, c ≠ 'x' ∧ c ≠ 'X') :
    ∀ c ∈ (ds ++ u).head?, c ≠ 'x' ∧ c ≠ 'X' := by
  cases ds with
  | nil => exact plain
  | cons d ds =>
    intro c known
    cases known
    have digit := digits _ List.mem_cons_self
    constructor <;> (rintro rfl; cases digit)

/-- So many units are rested in full, made up to the next nanosecond. -/
theorem ofText?_of_pointed {c : Char} {s : List Char} {n places : Nat} (digit : c.isDigit = true)
    (plain : ∀ d ∈ s.head?, d ≠ 'x' ∧ d ≠ 'X')
    (pointed : pointed? 10 (c :: s) = some (n, places, u))
    (unit : unit? u = some seconds) :
    ofText? (String.ofList (c :: s)) =
      some (.lasting ⟨⌈(n : ℚ) / 10 ^ places *
        (seconds * nanosPerSecond : Nat)⌉₊⟩) := by
  have read := read?_eq digit plain pointed (ends_of_unit unit)
  rw [ofText?, String.toList_ofList, read]
  simp only [unit, Option.map_some, Bool.false_and]
  rw [times?_eq (by decide) (by decide) (by decide)]
  simp [exact]

theorem ofText?_fraction (digits : ∀ c ∈ ds, c.isDigit = true)
    (behind : ∀ c ∈ fs, c.isDigit = true) (nonempty : ds ≠ [])
    (unit : unit? u = some seconds) :
    ofText? (String.ofList (ds ++ '.' :: (fs ++ u))) =
      some (.lasting ⟨⌈(value 10 (ds ++ fs) : ℚ) / 10 ^ fs.length *
        (seconds * nanosPerSecond : Nat)⌉₊⟩) := by
  have pointed := pointed?_fraction digits behind nonempty (ends_of_unit unit)
  obtain ⟨c, ds, rfl⟩ := List.exists_cons_of_ne_nil nonempty
  obtain ⟨digit, digits⟩ := List.forall_mem_cons.mp digits
  refine ofText?_of_pointed digit (plain_head digits ?_) pointed unit
  intro d known
  cases known
  decide

theorem ofText?_whole (digits : ∀ c ∈ ds, c.isDigit = true) (nonempty : ds ≠ [])
    (unit : unit? u = some seconds) :
    ofText? (String.ofList (ds ++ u)) =
      some (.lasting ⟨value 10 ds * (seconds * nanosPerSecond)⟩) := by
  have ends := ends_of_unit unit
  have pointed := pointed?_whole digits nonempty ends
  obtain ⟨c, ds, rfl⟩ := List.exists_cons_of_ne_nil nonempty
  obtain ⟨digit, digits⟩ := List.forall_mem_cons.mp digits
  have plain := plain_head digits fun d known => (ends d known).2.2.2.2
  have exact := ofText?_of_pointed digit plain pointed unit
  rwa [pow_zero, div_one, ← Nat.cast_mul, Nat.ceil_natCast] at exact

end Interval

end SupervisedShell
