import Mathlib
import SupervisedShell.Regex.Compiled
import SupervisedShell.Proofs.Builtin.Table
import SupervisedShell.Proofs.Regex.Matching
/-!
Integers are checked twice: an expression looks at the shape of the text, and then it is read digit
by digit in a word of 64 bits. Together the two accept the numerals whose integer the word holds,
however long they are.
-/

set_option autoImplicit false

namespace SupervisedShell

namespace Decimal

/-- One digit more, away from zero on the side of the sign. Neither step may leave the word. -/
def push (sign n : Int) (d : Char) : Except SignedFault Int := do
  if !d.isDigit then throw (.outOfRange .invalidDigit)
  let shifted ← inInt64 (n * 10)
  inInt64 (shifted + sign * digit d)

def readWord : List Char → Except SignedFault Int
  | [] => .error (.outOfRange .empty)
  | ['+'] | ['-'] => .error (.outOfRange .invalidDigit)
  | '-' :: ds => ds.foldlM (push (-1)) 0
  | '+' :: ds => ds.foldlM (push 1) 0
  | ds => ds.foldlM (push 1) 0

section
variable {sign : Int} {a b : Nat}

theorem inInt64_of_fits {n : Int} (low : -9223372036854775808 ≤ n)
    (high : n ≤ 9223372036854775807) :
    inInt64 n = .ok n := inInt64_eq_ok_iff.mpr ⟨rfl, low, high⟩

/-- What has left the word does not come back farther from zero. -/
theorem inInt64_stays_out (unit : sign = 1 ∨ sign = -1) (farther : a ≤ b) {e : SignedFault}
    (out : inInt64 (sign * a) = .error e) : inInt64 (sign * b) = .error e := by
  rcases unit with rfl | rfl
  all_goals
    unfold inInt64 at out ⊢
    split_ifs at out ⊢
    all_goals first | exact out | omega

theorem push_digit (unit : sign = 1 ∨ sign = -1) {d : Char} (isDigit : d.isDigit) :
    push sign (sign * a) d = inInt64 (sign * (a * 10 + digit d : Nat)) := by
  have sum : sign * (a * 10 + digit d : Nat) = sign * (a * 10 : Nat) + sign * digit d := by
    rw [Nat.cast_add, mul_add]
  have shifted : sign * a * 10 = sign * (a * 10 : Nat) := by push_cast; ring
  rw [sum]
  simp only [push, isDigit, Bool.not_true, Bool.false_eq_true, if_false, shifted]
  cases fits : inInt64 (sign * (a * 10 : Nat)) with
  | error e =>
    rw [← sum]
    exact (inInt64_stays_out unit (Nat.le_add_right _ _) fits).symm
  | ok n =>
    obtain ⟨rfl, -, -⟩ := inInt64_eq_ok_iff.mp fits
    rfl

/-- Reading on in the word gives what the whole number gives at the end. -/
theorem foldlM_push (unit : sign = 1 ∨ sign = -1) {ds : List Char}
    (digits : ∀ d ∈ ds, d.isDigit) (inside : inInt64 (sign * a) = .ok (sign * a)) :
    ds.foldlM (push sign) (sign * a) = inInt64 (sign * Nat.ofDigitChars 10 ds a) := by
  induction ds generalizing a with
  | nil => exact inside.symm
  | cons d ds ih =>
    obtain ⟨isDigit, digits⟩ := List.forall_mem_cons.mp digits
    rw [List.foldlM_cons, push_digit unit isDigit, ofDigitChars_cons_eq]
    -- The reading that stops here is right to do so: the digits behind only make the number larger.
    cases fits : inInt64 (sign * (a * 10 + digit d : Nat)) with
    | error e => exact (inInt64_stays_out unit (le_ofDigitChars _ ds) fits).symm
    | ok n =>
      obtain ⟨rfl, -, -⟩ := inInt64_eq_ok_iff.mp fits
      exact ih digits fits

end

theorem foldlM_push_zero {sign : Int} (unit : sign = 1 ∨ sign = -1) {ds : List Char}
    (shape : isDigits ds = true) :
    ds.foldlM (push sign) 0 = inInt64 (sign * value ds) := by
  have digits := (isDigits_iff.mp shape).2
  have start : inInt64 (sign * (0 : Nat)) = .ok (sign * (0 : Nat)) := by simp [inInt64_of_fits]
  simpa [value_eq_ofDigitChars] using foldlM_push unit digits start

theorem readWord_of_spells {cs : List Char} {v : Int} (spelled : Spells cs v) :
    readWord cs = inInt64 v := by
  obtain ⟨ds, shape, text⟩ := spells_iff.mp spelled
  obtain ⟨d, rest, rfl, notPlus, notMinus⟩ := exists_head_of_isDigits shape
  rcases text with ⟨rfl, rfl⟩ | ⟨rfl, rfl⟩ | ⟨rfl, rfl⟩
  · have read := foldlM_push_zero (.inl rfl) shape
    simp [readWord, notPlus, notMinus, read]
  · have read := foldlM_push_zero (.inl rfl) shape
    simp [readWord, read]
  · have read := foldlM_push_zero (.inr rfl) shape
    simp [readWord, read]

end Decimal

namespace Builtin

open Decimal (Spells)

def integerPattern : Regex :=
  .concat (.look .start) (.concat (.repeated (.set ⟨[(43, 43), (45, 45)]⟩) 0 (some 1) true)
    (.concat (.repeated (.set ⟨[(48, 57)]⟩) 1 none true) (.look .stop)))

theorem ofText_integerPattern : Regex.ofText "^[+-]?[0-9]+$" = .ok integerPattern := by cbv

theorem contains_sign (c : Char) :
    CharSet.contains ⟨[(43, 43), (45, 45)]⟩ c = true ↔ c = '+' ∨ c = '-' := by
  have plus : c = '+' ↔ c.toNat = 43 := by rw [← Char.toNat_inj]; rfl
  have minus : c = '-' ↔ c.toNat = 45 := by rw [← Char.toNat_inj]; rfl
  simp only [CharSet.contains, CharSet.holds, List.any_cons, List.any_nil, Bool.or_false,
    Bool.or_eq_true, Bool.and_eq_true, decide_eq_true_iff, plus, minus]
  omega

theorem contains_digit (c : Char) : CharSet.contains ⟨[(48, 57)]⟩ c = c.isDigit := by
  simp [CharSet.contains, CharSet.holds, Char.isDigit, UInt32.le_iff_toNat_le]

theorem sign_before_iff {cs ds : List Char} : cs = ds ∨ cs = '+' :: ds ∨ cs = '-' :: ds ↔
    ∃ w, cs = w ++ ds ∧ (∀ c ∈ w, c = '+' ∨ c = '-') ∧ w.length ≤ 1 := by
  constructor
  · rintro (rfl | rfl | rfl)
    · exact ⟨[], by simp⟩
    · exact ⟨['+'], by simp⟩
    · exact ⟨['-'], by simp⟩
  · rintro ⟨w, rfl, signs, one⟩
    rcases w with _ | ⟨c, _ | ⟨d, w⟩⟩
    · exact .inl rfl
    · rcases signs c List.mem_cons_self with rfl | rfl
      · exact .inr (.inl rfl)
      · exact .inr (.inr rfl)
    · simp at one

theorem isMatch_integerPattern_iff (text : String) :
    integerPattern.isMatch text = true ↔ ∃ v, Spells text.toList v := by
  rw [integerPattern, Regex.isMatch_ends_iff, Decimal.exists_spells_iff]
  simp only [Regex.spans_repeated_set_iff, contains_sign, contains_digit, List.drop_zero,
    Nat.zero_add, Decimal.isDigits_iff, sign_before_iff]
  constructor
  · rintro ⟨_, ⟨w, ⟨rest, known⟩, signs, -, one, rfl⟩, ds, second, digits,
      many, -, whole⟩
    rw [← known, List.drop_left] at second
    rw [← known, List.length_append] at whole
    obtain rfl := second.eq_of_length (by omega)
    exact ⟨ds, ⟨List.ne_nil_of_length_pos many, digits⟩, w, known.symm, signs, one 1 rfl⟩
  · rintro ⟨ds, ⟨nonempty, digits⟩, w, known, signs, one⟩
    refine ⟨_, ⟨w, ⟨ds, known.symm⟩, signs, Nat.zero_le _, by simpa using one, rfl⟩, ds,
      ?_, digits, ?_, by simp, ?_⟩
    · rw [known, List.drop_left]
    · exact List.length_pos_iff.mpr nonempty
    · rw [known, List.length_append]

/-- What is made of a text, with the record of a refusal. -/
inductive Reads (text : String) : Option Int × List Log.Record → Prop where
  | value {v : Int} (spelled : Spells text.toList v) (low : -9223372036854775808 ≤ v)
      (high : v ≤ 9223372036854775807) : Reads text (some v, [])
  | tooSmall {v : Int} (spelled : Spells text.toList v) (low : v < -9223372036854775808) :
    Reads text (none, [.outOfRange text .tooSmall])
  | tooLarge {v : Int} (spelled : Spells text.toList v) (high : 9223372036854775807 < v) :
    Reads text (none, [.outOfRange text .tooLarge])
  | shapeless (wrong : ¬ ∃ v, Spells text.toList v) : Reads text (none, [.notDecimal text])

theorem reads_integer (text : String) : Reads text (integer text) := by
  by_cases spelled : ∃ v, Spells text.toList v
  · obtain ⟨v, spelled⟩ := spelled
    have read := Decimal.signed_of_spells spelled
    by_cases low : v < -9223372036854775808
    · rw [Decimal.inInt64, if_pos low] at read
      simpa only [integer, read] using .tooSmall spelled low
    · by_cases high : 9223372036854775807 < v
      · rw [Decimal.inInt64, if_neg low, if_pos high] at read
        simpa only [integer, read] using .tooLarge spelled high
      · rw [Decimal.inInt64, if_neg low, if_neg high] at read
        simpa only [integer, read] using .value spelled (Int.not_lt.mp low) (Int.not_lt.mp high)
  · simpa only [integer, Decimal.signed_of_shapeless spelled] using .shapeless spelled

/-- The two checks, one behind the other. -/
theorem signed_eq (text : String) : Decimal.signed text =
    if integerPattern.isMatch text then Decimal.readWord text.toList else .error .notDecimal := by
  by_cases spelled : ∃ v, Spells text.toList v
  · rw [if_pos ((isMatch_integerPattern_iff text).mpr spelled)]
    obtain ⟨v, spelled⟩ := spelled
    rw [Decimal.signed_of_spells spelled, Decimal.readWord_of_spells spelled]
  · rw [if_neg (mt (isMatch_integerPattern_iff text).mp spelled),
      Decimal.signed_of_shapeless spelled]

def padded (zeros n : Nat) : List Char := List.replicate zeros '0' ++ Nat.toDigits 10 n

theorem digits_padded (zeros n : Nat) : Decimal.Digits (padded zeros n) n := by
  refine Decimal.digits_iff.mpr ⟨Decimal.isDigits_iff.mpr ⟨?_, fun d known => ?_⟩, ?_⟩
  · exact List.append_ne_nil_of_right_ne_nil _ Nat.toDigits_ne_nil
  · rcases List.mem_append.mp known with zero | digit
    · rw [List.eq_of_mem_replicate zero]
      rfl
    · exact Nat.isDigit_of_mem_toDigits (by decide) (Nat.le_refl 10) digit
  · rw [Decimal.value_eq_ofDigitChars, padded, Nat.ofDigitChars_append,
      Nat.ofDigitChars_replicate_zero]
    exact Nat.ofDigitChars_toDigits (by decide) (Nat.le_refl 10)

theorem integer_of_spells {cs : List Char} {v : Int} (spelled : Spells cs v)
    (low : -9223372036854775808 ≤ v)
    (high : v ≤ 9223372036854775807) : (integer (.ofList cs)).1 = some v :=
  integer_eq_some_iff.mpr ⟨by rwa [String.toList_ofList], low, high⟩

/-- What the two checks make of a text together, and what it denotes. -/
structure Exact (pattern : Regex) (text : String) : Prop where
  matched : pattern.isMatch text = true ↔ ∃ v, Spells text.toList v
  checked : Decimal.signed text =
    if pattern.isMatch text then Decimal.readWord text.toList else .error .notDecimal
  read : Reads text (integer text)
  value : ∀ v, (integer text).1 = some v ↔
    Spells text.toList v ∧ -9223372036854775808 ≤ v ∧ v ≤ 9223372036854775807

/-- The reader of integers takes every text for what it denotes, and nothing for a value that it
does not have. Signs and leading zeros are free up to both ends of the range. -/
theorem integer_exact :
    ∃ pattern, Regex.ofText "^[+-]?[0-9]+$" = .ok pattern ∧ (∀ text, Exact pattern text) ∧
    ∀ zeros n : Nat,
      (n ≤ 9223372036854775807 →
        (integer (.ofList (padded zeros n))).1 = some (n : Int) ∧
          (integer (.ofList ('+' :: padded zeros n))).1 = some (n : Int)) ∧
      (n ≤ 9223372036854775808 →
        (integer (.ofList ('-' :: padded zeros n))).1 = some (-n : Int)) := by
  refine ⟨integerPattern, ofText_integerPattern, fun text => ?_,
    fun zeros n => ⟨fun small => ⟨?_, ?_⟩, fun small => ?_⟩⟩
  · exact ⟨isMatch_integerPattern_iff text, signed_eq text, reads_integer text,
      fun _ => integer_eq_some_iff⟩
  · exact integer_of_spells (.plain (digits_padded zeros n)) (by omega) (by omega)
  · exact integer_of_spells (.plus (digits_padded zeros n)) (by omega) (by omega)
  · exact integer_of_spells (.minus (digits_padded zeros n)) (by omega) (by omega)

/-- Both ends of the range behind zeros, and zero below a minus sign. -/
theorem integer_exact_at_ends :
    9223372036854775807 ≤ 9223372036854775807 ∧ (integer "+09223372036854775807").1 =
      some 9223372036854775807 ∧
      9223372036854775808 ≤ 9223372036854775808 ∧ (integer "-009223372036854775808").1 =
        some (-9223372036854775808) ∧
      (integer "-0").1 = some 0 := by
  obtain ⟨pattern, -, -, written⟩ := integer_exact
  refine ⟨Nat.le_refl _, ?_, Nat.le_refl _, ?_, ?_⟩
  · exact ((written 1 9223372036854775807).1 (Nat.le_refl _)).2
  · exact (written 2 9223372036854775808).2 (Nat.le_refl _)
  · exact (written 0 0).2 (Nat.zero_le _)

example :
    ["9223372036854775808", "-9223372036854775809", "12\n", "٣", "+"].map
    (fun text => (integer text).1) =
    [none, none, none, none, none] := by decide

end Builtin

end SupervisedShell
