import SupervisedShell.Builtin
import SupervisedShell.Proofs.Number.Fibonacci
import SupervisedShell.Proofs.Number.Numeral
import SupervisedShell.Proofs.Text.Cipher

set_option autoImplicit false

namespace SupervisedShell.Builtin

open Decimal (Spells)

inductive Prints : String → List String → String → Prop where
  | fib {arg : String} {n : Nat} (spelled : Spells arg.toList n) (small : n ≤ 9223372036854775807)
      (fits : Nat.fib n ≤ 9223372036854775807) : Prints "fib" [arg] (toString (Nat.fib n))
  | caesar {first : String} {words : List String} {shift : Int} {out : List Char}
      (spelled : Spells first.toList shift) (low : -2147483648 ≤ shift)
      (high : shift ≤ 2147483647)
      (given : words ≠ []) (turned : List.Forall₂ (Caesar.Rotates shift)
      (Caesar.joined words) out) :
    Prints "caesar" (first :: words) (.ofList out)

inductive Refuses : String → List String → String → Prop where
  | fibCount {args : List String} (count : args.length ≠ 1) : Refuses "fib" args "Usage: fib <n>"
  | fibArgument {arg : String}
      (wrong : ∀ n : Nat, n ≤ 9223372036854775807 → ¬ Spells arg.toList n) :
    Refuses "fib" [arg] "Invalid input. Usage: fib <n>"
  | fibResult {arg : String} {n : Nat} (spelled : Spells arg.toList n)
      (small : n ≤ 9223372036854775807) (large : 9223372036854775807 < Nat.fib n) :
      Refuses "fib" [arg] "Error: Fibonacci number too large."
  | caesarCount {args : List String} (count : args.length < 2) :
    Refuses "caesar" args "Invalid input. Usage: caesar <shift> <text>"
  | caesarShift {first : String} {words : List String}
      (wrong : ∀ shift, -2147483648 ≤ shift → shift ≤ 2147483647 →
        ¬ Spells first.toList shift) :
    Refuses "caesar" (first :: words) "Invalid input. Usage: caesar <shift> <text>"

def Granted (grants : Nat → Bool) (name : String) (args : List String) : Prop :=
  name = "caesar" → grants (Caesar.joinedSize args.tail) = true

/-- The line that is printed as the result. -/
structure Yields (grants : Nat → Bool) (name : String) (args : List String) (text : String) :
    Prop where
  prints : Prints name args text
  granted : Granted grants name args

/-- The line that is printed in place of a result. -/
inductive Complains (grants : Nat → Bool) (name : String) (args : List String) :
    String → Prop where
  | refused {message : String} (refuses : Refuses name args message) :
      Complains grants name args message
  | starved {text : String} (prints : Prints name args text)
      (denied : ¬ Granted grants name args) :
    Complains grants name args "Error: Memory allocation failed."

/-- The table has a row for all arguments of its commands. -/
theorem prints_or_refuses {name : String} (own : name = "fib" ∨ name = "caesar")
    (args : List String) :
    (∃ text, Prints name args text) ∨ ∃ message, Refuses name args message := by
  rcases own with rfl | rfl
  · by_cases one : ∃ arg, args = [arg]
    · obtain ⟨arg, rfl⟩ := one
      by_cases valid : ∃ n : Nat, n ≤ 9223372036854775807 ∧ Spells arg.toList n
      · obtain ⟨n, small, spelled⟩ := valid
        by_cases fits : Nat.fib n ≤ 9223372036854775807
        · exact .inl ⟨_, .fib spelled small fits⟩
        · exact .inr ⟨_, .fibResult spelled small (Nat.lt_of_not_le fits)⟩
      · exact .inr ⟨_, .fibArgument fun n small spelled => valid ⟨n, small, spelled⟩⟩
    · exact .inr ⟨_, .fibCount fun count => one (List.length_eq_one_iff.mp count)⟩
  · rcases args with _ | ⟨first, _ | ⟨word, words⟩⟩
    · exact .inr ⟨_, .caesarCount (by decide)⟩
    · exact .inr ⟨_, .caesarCount (by simp)⟩
    · by_cases valid : ∃ shift, (-2147483648 ≤ shift ∧ shift ≤ 2147483647) ∧
        Spells first.toList shift
      · obtain ⟨shift, ⟨low, high⟩, spelled⟩ := valid
        exact .inl ⟨_, .caesar spelled low high (List.cons_ne_nil _ _)
          (Caesar.forall_rotates_iff.mpr rfl)⟩
      · exact .inr ⟨_, .caesarShift fun shift low high spelled =>
          valid ⟨shift, ⟨low, high⟩, spelled⟩⟩

theorem integer_eq_some_iff {text : String} {v : Int} : (integer text).1 = some v ↔
    Spells text.toList v ∧ -9223372036854775808 ≤ v ∧ v ≤ 9223372036854775807 := by
  rw [← Decimal.signed_eq_ok_iff]
  unfold integer
  split
  · next read => simp [read]
  · next read => simp [read]
  · next read => simp [read]

theorem yields_or_complains (grants : Nat → Bool) {name : String}
    (own : name = "fib" ∨ name = "caesar") (args : List String) :
    (∃ text, Yields grants name args text) ∨
      ∃ message, Complains grants name args message := by
  rcases prints_or_refuses own args with ⟨text, prints⟩ | ⟨message, refuses⟩
  · by_cases granted : Granted grants name args
    · exact .inl ⟨text, prints, granted⟩
    · exact .inr ⟨_, .starved prints granted⟩
  · exact .inr ⟨message, .refused refuses⟩

section
variable {arg first : String} {args words : List String}

/-- What becomes of an argument depends on the number that is read, not on the records of
reading it. -/
theorem fibOfArgs_single (arg : String) : (fibOfArgs [arg]).1 =
    match (integer arg).1 with
    | some (.ofNat n) => .ok (.fib n)
    | _ => .error .fibInvalid := by
  rcases read : integer arg with ⟨_ | (n | n), records⟩ <;> simp [fibOfArgs, read]

theorem caesarOfArgs_cons (first word : String) (words : List String) :
    (caesarOfArgs (first :: word :: words)).1 =
    match (integer first).1 with
    | some n => if isShift n then .ok (.caesar n (word :: words)) else .error .caesarInvalid
    | none => .error .caesarInvalid := by
  rcases read : integer first with ⟨_ | n, records⟩
  · simp [caesarOfArgs, read]
  · simp only [caesarOfArgs, read]
    split <;> rfl

theorem fibOfArgs_of_spells {n : Nat} (spelled : Spells arg.toList n)
    (small : n ≤ 9223372036854775807) :
    (fibOfArgs [arg]).1 = .ok (.fib n) := by
  have value : (integer arg).1 = some (n : Int) :=
    integer_eq_some_iff.mpr ⟨spelled, by omega, by omega⟩
  rw [fibOfArgs_single, value]

theorem fibOfArgs_of_wrong
    (wrong : ∀ n : Nat, n ≤ 9223372036854775807 → ¬ Spells arg.toList n) :
    (fibOfArgs [arg]).1 = .error .fibInvalid := by
  rw [fibOfArgs_single]
  split
  · next n value =>
    obtain ⟨spelled, -, high⟩ := integer_eq_some_iff.mp value
    exact absurd spelled (wrong n (Int.ofNat_le.mp high))
  · rfl

theorem fibOfArgs_of_count (count : args.length ≠ 1) : (fibOfArgs args).1 = .error .fibUsage := by
  unfold fibOfArgs
  split
  · simp at count
  · rfl

theorem isShift_iff {n : Int} : isShift n = true ↔ -2147483648 ≤ n ∧ n ≤ 2147483647 := by
  simp [isShift]

theorem caesarOfArgs_of_spells {shift : Int} (spelled : Spells first.toList shift)
    (low : -2147483648 ≤ shift) (high : shift ≤ 2147483647) (given : words ≠ []) :
    (caesarOfArgs (first :: words)).1 = .ok (.caesar shift words) := by
  obtain ⟨word, others, rfl⟩ := List.exists_cons_of_ne_nil given
  have value : (integer first).1 = some shift :=
    integer_eq_some_iff.mpr ⟨spelled, by omega, by omega⟩
  rw [caesarOfArgs_cons, value]
  exact if_pos (isShift_iff.mpr ⟨low, high⟩)

theorem caesarOfArgs_of_wrong
    (wrong : ∀ shift, -2147483648 ≤ shift → shift ≤ 2147483647 →
      ¬ Spells first.toList shift) :
    (caesarOfArgs (first :: words)).1 = .error .caesarInvalid := by
  rcases words with _ | ⟨word, others⟩
  · rfl
  · rw [caesarOfArgs_cons]
    split
    · next shift value =>
      refine if_neg fun inside => ?_
      obtain ⟨low, high⟩ := isShift_iff.mp inside
      exact wrong shift low high (integer_eq_some_iff.mp value).1
    · rfl

theorem caesarOfArgs_of_count (count : args.length < 2) :
    (caesarOfArgs args).1 = .error .caesarInvalid := by
  unfold caesarOfArgs
  split
  · simp only [List.length_cons] at count
    omega
  · rfl

end

variable {grants : Nat → Bool} {name : String} {args : List String}

theorem result_caesar (grants : Nat → Bool) (shift : Int) (words : List String) :
    result grants (.caesar shift words) = if grants (Caesar.joinedSize words) then
        .ok (some (Caesar.encrypt shift words))
      else .error (.outOfMemory (.allocation (Caesar.joinedSize words))) := by
  rw [result, Caesar.reserved]
  split <;> rfl

theorem Yields.made {text : String} (h : Yields grants name args text) :
    ∃ made, ofArgs? name args = some made ∧ made.1.bind (result grants) = .ok (some text) := by
  obtain ⟨prints, granted⟩ := h
  cases prints with
  | @fib arg n spelled small fits =>
    refine ⟨fibOfArgs [arg], rfl, ?_⟩
    have some_value : (Nat.fib n : Int) ≠ Fibonacci.overflow := by
      have wrong : Fibonacci.overflow < 0 := by decide
      omega
    simp only [fibOfArgs_of_spells spelled small, Except.bind, result,
      Fibonacci.compute_of_fits fits, if_neg some_value]
    rfl
  | @caesar first words shift out spelled low high given turned =>
    refine ⟨caesarOfArgs (first :: words), rfl, ?_⟩
    have room : grants (Caesar.joinedSize words) = true := granted rfl
    simp only [caesarOfArgs_of_spells spelled low high given, Except.bind, result_caesar,
      room, if_true, Caesar.encrypt_eq, Caesar.forall_rotates_iff.mp turned]

/-- A message stands for arguments that were rejected, or for a result that there is not. -/
theorem Complains.made {message : String} (h : Complains grants name args message) : ∃ made e,
    ofArgs? name args = some made ∧ made.1.bind (result grants) = .error e ∧
      BuiltinError.message e = message := by
  cases h with
  | refused refuses =>
    cases refuses with
    | fibCount count => exact ⟨_, .fibUsage, rfl, by rw [fibOfArgs_of_count count]; rfl, rfl⟩
    | fibArgument wrong =>
      exact ⟨_, .fibInvalid, rfl, by rw [fibOfArgs_of_wrong wrong]; rfl, rfl⟩
    | @fibResult arg n spelled small large =>
      refine ⟨fibOfArgs [arg], .fibTooLarge, rfl, ?_, rfl⟩
      simp only [fibOfArgs_of_spells spelled small, Except.bind, result,
        Fibonacci.compute_of_large large, if_true]
    | caesarCount count =>
      exact ⟨_, .caesarInvalid, rfl, by rw [caesarOfArgs_of_count count]; rfl, rfl⟩
    | caesarShift wrong =>
      exact ⟨_, .caesarInvalid, rfl, by rw [caesarOfArgs_of_wrong wrong]; rfl, rfl⟩
  | starved prints denied =>
    cases prints with
    | fib => exact absurd (fun other => nomatch other) denied
    | @caesar first words shift out spelled low high given turned =>
      have short : ¬ grants (Caesar.joinedSize words) = true := fun room => denied fun _ => room
      refine ⟨caesarOfArgs (first :: words), .outOfMemory (.allocation (Caesar.joinedSize words)),
        rfl, ?_, rfl⟩
      simp only [caesarOfArgs_of_spells spelled low high given, Except.bind, result_caesar,
        if_neg short]

theorem Yields.unique {text text' : String} (h : Yields grants name args text)
    (h' : Yields grants name args text') : text = text' := by
  obtain ⟨made, known, result⟩ := h.made
  obtain ⟨made', known', result'⟩ := h'.made
  cases known.symm.trans known'
  cases result.symm.trans result'
  rfl

theorem Yields.not_complains {text message : String} (h : Yields grants name args text) :
    ¬ Complains grants name args message := by
  intro h'
  obtain ⟨made, known, result⟩ := h.made
  obtain ⟨made', e, known', result', -⟩ := h'.made
  cases known.symm.trans known'
  cases result.symm.trans result'

theorem Complains.unique {message message' : String} (h : Complains grants name args message)
    (h' : Complains grants name args message') : message = message' := by
  obtain ⟨made, e, known, result, rfl⟩ := h.made
  obtain ⟨made', e', known', result', rfl⟩ := h'.made
  cases known.symm.trans known'
  cases result.symm.trans result'
  rfl

end SupervisedShell.Builtin
