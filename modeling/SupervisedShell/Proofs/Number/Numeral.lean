import Mathlib.Data.List.Induction
import Mathlib.Data.Nat.Digits.Defs
import SupervisedShell.Number.Decimal
/-!
Numerals and the integers that they denote. Reading a signed numeral gives its integer exactly if 64
bits hold it; leading zeros and the sign of zero are free.
-/

set_option autoImplicit false

namespace SupervisedShell.Decimal

def digit (c : Char) : Nat := c.toNat - '0'.toNat

/-- One digit or more. The last of them counts ones. -/
structure Digits (ds : List Char) (n : Nat) : Prop where
  nonempty : ds ≠ []
  digits : ∀ d ∈ ds, d.isDigit
  counted : Nat.ofDigits 10 (ds.reverse.map digit) = n

inductive Spells : List Char → Int → Prop where
  | plain {ds : List Char} {n : Nat} (digits : Digits ds n) : Spells ds n
  | plus {ds : List Char} {n : Nat} (digits : Digits ds n) : Spells ('+' :: ds) n
  | minus {ds : List Char} {n : Nat} (digits : Digits ds n) : Spells ('-' :: ds) (-n)

theorem value_eq_ofDigits (ds : List Char) : value ds = Nat.ofDigits 10 (ds.reverse.map digit) := by
  -- The reader goes from the left, so the digit that counts ones is peeled off on the right.
  induction ds using List.reverseRecOn with
  | nil => rfl
  | append_singleton ds d ih =>
    have peeled : value (ds ++ [d]) = value ds * 10 + digit d := by simp [value, digit]
    rw [peeled, ih, List.reverse_append, List.reverse_singleton, List.singleton_append,
      List.map_cons, Nat.ofDigits_cons]
    omega

theorem isDigits_iff {ds : List Char} :
    isDigits ds = true ↔ ds ≠ [] ∧ ∀ d ∈ ds, d.isDigit = true := by
  simp [isDigits]

theorem digits_iff {ds : List Char} {n : Nat} :
    Digits ds n ↔ isDigits ds = true ∧ value ds = n := by
  constructor
  · rintro ⟨nonempty, digits, rfl⟩
    exact ⟨isDigits_iff.mpr ⟨nonempty, digits⟩, value_eq_ofDigits ds⟩
  · rintro ⟨shape, rfl⟩
    obtain ⟨nonempty, digits⟩ := isDigits_iff.mp shape
    exact ⟨nonempty, digits, (value_eq_ofDigits ds).symm⟩

theorem inInt64_eq_ok_iff {n v : Int} : inInt64 n = .ok v ↔
    n = v ∧ -9223372036854775808 ≤ v ∧ v ≤ 9223372036854775807 := by
  unfold inInt64
  split
  · simp only [reduceCtorEq, false_iff]
    omega
  · split
    · simp only [reduceCtorEq, false_iff]
      omega
    · rw [Except.ok.injEq]
      omega

theorem spells_iff {cs : List Char} {v : Int} : Spells cs v ↔
    ∃ ds, isDigits ds = true ∧
      (cs = ds ∧ v = value ds ∨ cs = '+' :: ds ∧ v = value ds ∨
        cs = '-' :: ds ∧ v = -value ds) := by
  constructor
  · rintro (⟨digits⟩ | ⟨digits⟩ | ⟨digits⟩)
    all_goals
      obtain ⟨shape, rfl⟩ := digits_iff.mp digits
      exact ⟨_, shape, by simp⟩
  · rintro ⟨ds, shape, ⟨rfl, rfl⟩ | ⟨rfl, rfl⟩ | ⟨rfl, rfl⟩⟩
    · exact .plain (digits_iff.mpr ⟨shape, rfl⟩)
    · exact .plus (digits_iff.mpr ⟨shape, rfl⟩)
    · exact .minus (digits_iff.mpr ⟨shape, rfl⟩)

theorem exists_head_of_isDigits {ds : List Char} (shape : isDigits ds = true) :
    ∃ d rest, ds = d :: rest ∧ d ≠ '+' ∧ d ≠ '-' := by
  cases ds with
  | nil => simp [isDigits] at shape
  | cons d rest =>
    refine ⟨d, rest, rfl, ?_, ?_⟩
    all_goals
      rintro rfl
      simp [isDigits] at shape

theorem signed_of_spells {text : String} {v : Int} (spelled : Spells text.toList v) :
    signed text = inInt64 v := by
  obtain ⟨ds, shape, known⟩ := spells_iff.mp spelled
  obtain ⟨d, rest, rfl, notPlus, notMinus⟩ := exists_head_of_isDigits shape
  rcases known with ⟨known, rfl⟩ | ⟨known, rfl⟩ | ⟨known, rfl⟩
  all_goals simp [signed, known, shape, notPlus, notMinus]

theorem exists_spells_iff {cs : List Char} :
    (∃ v, Spells cs v) ↔ ∃ ds, isDigits ds = true ∧
      (cs = ds ∨ cs = '+' :: ds ∨ cs = '-' :: ds) := by
  simp only [spells_iff]
  constructor
  · rintro ⟨v, ds, shape, text⟩
    exact ⟨ds, shape, text.imp And.left (Or.imp And.left And.left)⟩
  · rintro ⟨ds, shape, text | text | text⟩
    · exact ⟨_, ds, shape, .inl ⟨text, rfl⟩⟩
    · exact ⟨_, ds, shape, .inr (.inl ⟨text, rfl⟩)⟩
    · exact ⟨_, ds, shape, .inr (.inr ⟨text, rfl⟩)⟩

theorem signed_of_shapeless {text : String} (wrong : ¬ ∃ v, Spells text.toList v) :
    signed text = .error .notDecimal := by
  rw [exists_spells_iff] at wrong
  unfold signed
  split
  · next ds known => exact if_neg fun shape => wrong ⟨ds, shape, .inr (.inr known)⟩
  · next ds known => exact if_neg fun shape => wrong ⟨ds, shape, .inr (.inl known)⟩
  · exact if_neg fun shape => wrong ⟨_, shape, .inl rfl⟩

theorem signed_eq_ok_iff {text : String} {v : Int} : signed text = .ok v ↔
    Spells text.toList v ∧ -9223372036854775808 ≤ v ∧ v ≤ 9223372036854775807 := by
  constructor
  · intro read
    by_cases shaped : ∃ w, Spells text.toList w
    · obtain ⟨w, spelled⟩ := shaped
      rw [signed_of_spells spelled, inInt64_eq_ok_iff] at read
      obtain ⟨rfl, low, high⟩ := read
      exact ⟨spelled, low, high⟩
    · rw [signed_of_shapeless shaped] at read
      cases read
  · rintro ⟨spelled, low, high⟩
    rw [signed_of_spells spelled, inInt64_eq_ok_iff]
    exact ⟨rfl, low, high⟩

/-! ### Numerals without a minus sign, read digit by digit -/

inductive Counts : List Char → Nat → Prop where
  | plain {ds : List Char} {n : Nat} (digits : Digits ds n) : Counts ds n
  | plus {ds : List Char} {n : Nat} (digits : Digits ds n) : Counts ('+' :: ds) n

theorem value_eq_ofDigitChars (ds : List Char) : value ds = Nat.ofDigitChars 10 ds 0 := by
  simp only [value, Nat.ofDigitChars, Nat.mul_comm]

theorem ofDigitChars_cons_eq (d : Char) (ds : List Char) (n : Nat) :
    Nat.ofDigitChars 10 (d :: ds) n = Nat.ofDigitChars 10 ds (n * 10 + digit d) := by
  rw [Nat.ofDigitChars_cons, Nat.mul_comm, digit]

theorem le_ofDigitChars (n : Nat) (ds : List Char) : n ≤ Nat.ofDigitChars 10 ds n := by
  rw [Nat.ofDigitChars_eq_ofDigitChars_zero]
  exact Nat.le_add_right_of_le (Nat.le_mul_of_pos_left n (Nat.pow_pos (by decide)))

theorem readDigits_digit {d : Char} (isDigit : d.isDigit) (max n : Nat) (ds : List Char) :
    readDigits max n (d :: ds) =
      if n * 10 + digit d ≤ max then readDigits max (n * 10 + digit d) ds
        else .error .tooLarge := by
  simp only [readDigits, isDigit, Bool.not_true, Bool.false_eq_true, if_false]
  rfl

/-- The reader stops where a number is too large, and no digit behind it could have made
it smaller. -/
theorem readDigits_eq_ok_iff {max n v : Nat} {ds : List Char} (start : n ≤ max) :
    readDigits max n ds = .ok v ↔ (∀ d ∈ ds, d.isDigit) ∧ Nat.ofDigitChars 10 ds n = v ∧
      v ≤ max := by
  induction ds generalizing n with
  | nil =>
    simp only [readDigits, Except.ok.injEq, Nat.ofDigitChars_nil, List.not_mem_nil, false_implies,
      implies_true, true_and]
    omega
  | cons d ds ih =>
    rw [List.forall_mem_cons]
    cases isDigit : d.isDigit with
    | false => simp [readDigits, isDigit]
    | true =>
      rw [readDigits_digit isDigit, ofDigitChars_cons_eq]
      by_cases fits : n * 10 + digit d ≤ max
      · rw [if_pos fits, ih fits]
        simp
      · have larger := le_ofDigitChars (n * 10 + digit d) ds
        rw [if_neg fits]
        simp only [reduceCtorEq, false_iff]
        rintro ⟨-, rfl, small⟩
        omega

theorem counts_iff {ds : List Char} {n : Nat} (unsigned : ∀ ds', ds ≠ '+' :: ds') :
    Counts ds n ↔ Digits ds n := by
  constructor
  · intro counted
    cases counted with
    | plain digits => exact digits
    | plus digits => exact absurd rfl (unsigned _)
  · exact .plain

theorem counts_plus_iff {ds : List Char} {n : Nat} : Counts ('+' :: ds) n ↔ Digits ds n := by
  constructor
  · intro counted
    cases counted with
    | plain digits => exact absurd (digits.digits '+' List.mem_cons_self) (by decide)
    | plus digits => exact digits
  · exact .plus

theorem readDigits_zero_eq_ok_iff {max v : Nat} {ds : List Char} (nonempty : ds ≠ []) :
    readDigits max 0 ds = .ok v ↔ Digits ds v ∧ v ≤ max := by
  rw [readDigits_eq_ok_iff (Nat.zero_le max), digits_iff, isDigits_iff, and_iff_right nonempty,
    value_eq_ofDigitChars, and_assoc]

theorem unsigned_eq_ok_iff {max n : Nat} {text : String} : unsigned max text = .ok n ↔
    Counts text.toList n ∧ n ≤ max := by
  unfold unsigned
  split
  · next known =>
    rw [known, counts_iff (by simp)]
    simp [digits_iff, isDigits]
  · next known =>
    rw [known, counts_plus_iff]
    simp [digits_iff, isDigits]
  · next ds some known =>
    have nonempty : ds ≠ [] := by
      rintro rfl
      exact some rfl
    rw [known, counts_plus_iff, readDigits_zero_eq_ok_iff nonempty]
  · next nonempty _ notPlus =>
    rw [counts_iff notPlus, readDigits_zero_eq_ok_iff nonempty]

end SupervisedShell.Decimal
