import SupervisedShell.Script.Arithmetic
/-!
Sums stay within 64 bits: whatever is worked out is a number that a word holds, and the one division
that has no such result stops the script.
-/

set_option autoImplicit false

namespace SupervisedShell.Script

/-- What follows an action gets nothing from it but such values. -/
def Act.Yields {α : Type} (P : α → Prop) (a : Act α) : Prop :=
  ∀ (r : Run) (k k' : Except Halt α × Run → Course),
    (∀ x r', P x → k (.ok x, r') = k' (.ok x, r')) →
      (∀ h r', k (.error h, r') = k' (.error h, r')) → (a.run.run r) k = (a.run.run r) k'

namespace Act.Yields

variable {α β : Type} {P Q : α → Prop} {a : Act α}

theorem any (a : Act α) : a.Yields fun _ => True := by
  intro r k k' same fault
  have equal : k = k' := by
    funext (x, r')
    cases x with
    | error e => exact fault e r'
    | ok x => exact same x r' trivial
  rw [equal]

theorem pure {x : α} (h : P x) : Yields P (Pure.pure x : Act α) := fun r _ _ same _ => same x r h

theorem bind {R : β → Prop} {f : α → Act β} (first : a.Yields P)
    (second : ∀ x, P x → (f x).Yields R) : Yields R (a >>= f) := by
  intro r k k' same fault
  refine first r _ _ (fun x r' h => ?_) (fun e r' => ?_)
  · exact second x h r' k k' same fault
  · exact fault e r'

theorem mono (h : a.Yields P) (wider : ∀ x, P x → Q x) : a.Yields Q :=
  fun r k k' same => h r k k' fun x r' known => same x r' (wider x known)

theorem failed : Yields P (Act.failed : Act α) := fun r _ _ _ fault => fault _ r

theorem fail (message : String) : Yields P (Act.fail message : Act α) :=
  (any _).bind fun _ _ => (any _).bind fun _ _ => (any _).bind fun _ _ => failed

theorem break_ (signal : Nat) : Yields P (Act.break_ signal : Act α) :=
  (any _).bind fun _ _ _ _ _ _ _ => rfl

end Act.Yields

namespace Sum

def Fits (n : Int) : Prop := -largest - 1 ≤ n ∧ n ≤ largest

instance (n : Int) : Decidable (Fits n) := inferInstanceAs (Decidable (_ ∧ _))

theorem fits_wrap (n : Int) : Fits (wrap n) := by
  have low := Int.le_bmod (x := n) (m := 18446744073709551616) (by decide)
  have high := Int.bmod_lt (x := n) (m := 18446744073709551616) (by decide)
  unfold Fits wrap largest
  omega

theorem fits_toInt (b : BitVec 64) : Fits b.toInt := by
  have low := b.le_toInt
  have high := b.toInt_lt
  unfold Fits largest
  omega

theorem fits_truth (b : Bool) : Fits (truth b) := by
  cases b <;> decide

theorem fits_tdiv {a b : Int} (first : Fits a) (nonzero : b ≠ 0)
    (apart : ¬ (a = -largest - 1 ∧ b = -1)) : Fits (a.tdiv b) := by
  by_cases one : b = 1
  · rwa [one, Int.tdiv_one]
  · by_cases minus : b = -1
    · rw [minus, Int.tdiv_neg, Int.tdiv_one]
      unfold Fits at *
      omega
    · have size : (a.tdiv b).natAbs ≤ a.natAbs / 2 := by
        rw [Int.natAbs_tdiv]
        exact Nat.div_le_div_left (by omega) (by decide)
      unfold Fits largest at *
      omega

theorem fits_tmod {a b : Int} (second : Fits b) (nonzero : b ≠ 0) : Fits (a.tmod b) := by
  have size : (a.tmod b).natAbs < b.natAbs := by
    rw [Int.natAbs_tmod]
    exact Nat.mod_lt _ (Int.natAbs_pos.mpr nonzero)
  unfold Fits largest at *
  omega

theorem fits_result {op : Binary} {a b n : Int} (first : Fits a) (second : Fits b)
    (whole : Parts.breaks op a b = false) (worked : result? op a b = some n) : Fits n := by
  cases op with
  | mul | add | sub =>
    cases worked
    exact fits_wrap _
  | div =>
    obtain ⟨some, rfl⟩ : b ≠ 0 ∧ a.tdiv b = n := by simpa [result?] using worked
    exact fits_tdiv first some (by simpa [Parts.breaks] using whole)
  | mod =>
    obtain ⟨some, rfl⟩ : b ≠ 0 ∧ a.tmod b = n := by simpa [result?] using worked
    exact fits_tmod second some
  | shiftLeft | shiftRight | and | xor | or =>
    cases worked
    exact fits_toInt _
  | lt | le | gt | ge | eq | ne =>
    cases worked
    exact fits_truth _

theorem numeral_nonneg (s : List Char) : 0 ≤ (numeral s).1 := by
  unfold numeral
  dsimp only
  repeat' split
  all_goals exact Int.natCast_nonneg _

theorem fits_signed {negative : Bool} {m n : Int} (nonneg : 0 ≤ m)
    (read : signed? negative m = some n) : Fits n := by
  obtain ⟨small, same⟩ := Option.ite_none_left_eq_some.mp read
  obtain rfl := Option.some.inj same
  clear read same
  unfold Fits largest at *
  cases negative
  · simp at small ⊢
    omega
  · simp at small ⊢
    omega

theorem fits_ofText {anyNotation : Bool} {s : String} {n : Int}
    (read : ofText? anyNotation s = some n) : Fits n := by
  unfold ofText? at read
  dsimp only at read
  split at read
  · split at read
    · cases read
      decide
    · cases read
  · obtain ⟨-, small⟩ := Option.ite_none_right_eq_some.mp read
    refine fits_signed ?_ small
    split
    · exact numeral_nonneg _
    · exact Int.natCast_nonneg _

/-- All numbers among the tokens fit. -/
def Known (ts : List Token) : Prop := ∀ n, .number n ∈ ts → Fits n

theorem Known.tail {t : Token} {ts : List Token} (h : Known (t :: ts)) : Known ts :=
  fun n known => h n (List.mem_cons_of_mem t known)

theorem Known.cons {t : Token} {ts : List Token} (first : ∀ n, t = .number n → Fits n)
    (h : Known ts) : Known (t :: ts) := by
  intro n known
  rcases List.mem_cons.mp known with same | known
  · exact first n same.symm
  · exact h n known

theorem known_tokens (letters : Nat) (s : List Char) : Known (tokens letters s) := by
  fun_induction tokens letters s with
  | case1 | case2 => exact nofun
  | case3 n c rest blank ih => exact ih
  | case4 n c rest noBlank digit v behind read ih =>
    refine ih.cons fun m same => ?_
    have nonneg := numeral_nonneg (c :: rest)
    cases same
    simp only [read] at nonneg
    unfold Fits largest
    omega
  | case5 n c rest noBlank noDigit start name ih => exact ih.cons nofun
  | case6 n c rest noBlank noDigit noStart s found ih => exact ih.cons nofun
  | case7 n c rest noBlank noDigit noStart unknown ih => exact ih.cons nofun

def Good (s : Step) : Prop := Fits s.1 ∧ Known s.2

theorem yields_fault {α : Type} {P : α → Prop} (text message : String) :
    (fault text message : Act α).Yields P := .fail _

theorem yields_lookUp (name : String) : (lookUp name).Yields Fits := by
  refine (Act.Yields.any _).bind fun r _ => ?_
  dsimp only
  split
  · next n read => exact .pure (fits_ofText read)
  · exact .fail _

namespace Parts

structure Sound (x : Parts) : Prop where
  assignment : ∀ idle ts, Known ts → (x.assignment idle ts).Yields Good
  conditional : ∀ idle ts, Known ts → (x.conditional idle ts).Yields Good
  either : ∀ idle ts, Known ts → (x.either idle ts).Yields Good
  both : ∀ idle ts, Known ts → (x.both idle ts).Yields Good
  primary : ∀ idle ts, Known ts → (x.primary idle ts).Yields Good

theorem yields_apply (x : Parts) (idle : Bool) (op : Binary) {a b : Int} (first : Fits a)
    (second : Fits b) : (x.apply idle op a b).Yields Fits := by
  unfold apply
  split
  · exact .pure second
  · dsimp only
    split
    · exact .bind (P := fun _ => False) (.break_ _) fun _ none => none.elim
    · next whole =>
      split
      · next n worked => exact .pure (fits_result first second (by simpa using whole) worked)
      · exact yields_fault _ _

variable {x : Parts} (sound : x.Sound) {ts : List Token} (idle : Bool)
include sound

theorem Sound.primaryAt (known : Known ts) : (x.primaryAt idle ts).Yields Good := by
  unfold Parts.primaryAt
  split
  · next v rest => exact .pure ⟨known v List.mem_cons_self, known.tail⟩
  · next name rest =>
    dsimp only
    split
    · exact .bind (P := Fits) (.pure (by decide)) fun n fits => .pure ⟨fits, known.tail⟩
    · exact (yields_lookUp name).bind fun n fits => .pure ⟨fits, known.tail⟩
  · next rest =>
    refine (sound.assignment idle _ known.tail).bind fun s good => ?_
    split
    · exact .pure ⟨good.1, good.2.tail⟩
    · exact yields_fault _ _
  · next s rest _ =>
    split
    · next op _ =>
      refine (sound.primary idle _ known.tail).bind fun (n, ts) good => ?_
      dsimp only
      split
      · exact .pure good
      · exact .pure ⟨fits_wrap _, good.2⟩
      · exact .pure ⟨fits_truth _, good.2⟩
      · refine .pure ⟨?_, good.2⟩
        have := good.1
        unfold Fits at *
        omega
    · exact yields_fault _ _
  · exact yields_fault _ _

omit sound in
theorem yields_more {operand : List Token → Act Step}
    (operands : ∀ ts, Known ts → (operand ts).Yields Good) (level steps : Nat) {s : Step}
    (good : Good s) : (x.more idle level operand steps s).Yields Good := by
  induction steps generalizing s with
  | zero => exact .pure good
  | succ n ih =>
    obtain ⟨a, ts⟩ := s
    unfold Parts.more
    split
    · split
      · refine (operands _ good.2.tail).bind fun (b, ts) next => ?_
        exact (x.yields_apply idle _ good.1 next.1).bind fun n fits => ih ⟨fits, next.2⟩
      · exact .pure good
    · exact .pure good

theorem Sound.binary (levels : Nat) (known : Known ts) :
    (x.binary idle levels ts).Yields Good := by
  induction levels generalizing ts with
  | zero => exact sound.primary idle ts known
  | succ k ih =>
    exact (ih known).bind fun s good => yields_more idle (fun ts known => ih known) k _ good

theorem Sound.bothAt (known : Known ts) : (x.bothAt idle ts).Yields Good := by
  refine (sound.binary idle _ known).bind fun s good => ?_
  split
  · exact (sound.both _ _ good.2.tail).bind fun (b, ts) next => .pure ⟨fits_truth _, next.2⟩
  · exact .pure good

theorem Sound.eitherAt (known : Known ts) : (x.eitherAt idle ts).Yields Good := by
  refine (sound.both idle _ known).bind fun s good => ?_
  split
  · exact (sound.either _ _ good.2.tail).bind fun (b, ts) next => .pure ⟨fits_truth _, next.2⟩
  · exact .pure good

theorem Sound.conditionalAt (known : Known ts) : (x.conditionalAt idle ts).Yields Good := by
  refine (sound.either idle _ known).bind fun s good => ?_
  split
  · refine (sound.assignment _ _ good.2.tail).bind fun s first => ?_
    split
    · refine (sound.conditional _ _ first.2.tail).bind
        fun (c, ts) second => .pure ⟨?_, second.2⟩
      split
      · exact first.1
      · exact second.1
    · exact yields_fault _ _
  · exact .pure good

omit sound in
theorem yields_assign (name : String) (op? : Option Binary) {b : Int} (fits : Fits b) :
    (x.assign name op? b).Yields Fits := by
  have keep {n : Int} (fits : Fits n) :
      Act.Yields Fits (do Act.assign name (toString n) false; return n) :=
    (Act.Yields.any _).bind fun _ _ => .pure fits
  unfold Parts.assign
  dsimp only
  split
  · exact .bind (P := Fits) (.pure fits) fun n => keep
  · refine (yields_lookUp name).bind fun a first => ?_
    exact (x.yields_apply false _ first fits).bind fun n => keep

theorem Sound.assignmentAt (known : Known ts) : (x.assignmentAt idle ts).Yields Good := by
  unfold Parts.assignmentAt
  split
  · split
    · refine (sound.assignment idle _ known.tail.tail).bind fun (b, ts) good => ?_
      dsimp only
      split
      · exact .bind (P := Fits) (.pure good.1) fun n fits => .pure ⟨fits, good.2⟩
      · exact (yields_assign _ _ good.1).bind fun n fits => .pure ⟨fits, good.2⟩
    · exact sound.conditional idle _ known
  · exact sound.conditional idle _ known

end Parts

/-- All that is worked out, in whichever part of a sum, fits a word. -/
theorem yields_work (text : String) (depth : Nat) (goal : Goal) (idle : Bool) {ts : List Token}
    (known : Known ts) : (work text depth goal idle ts).Yields Good := by
  induction depth generalizing goal idle ts with
  | zero => exact yields_fault _ _
  | succ n ih =>
    have sound : Parts.Sound
        { text := text, assignment := work text n .assignment
          conditional := work text n .conditional, either := work text n .either
          both := work text n .both, primary := work text n .primary } :=
      ⟨fun _ _ => ih _ _, fun _ _ => ih _ _, fun _ _ => ih _ _, fun _ _ => ih _ _,
        fun _ _ => ih _ _⟩
    cases goal with
    | assignment => exact sound.assignmentAt idle known
    | conditional => exact sound.conditionalAt idle known
    | either => exact sound.eitherAt idle known
    | both => exact sound.bothAt idle known
    | primary => exact sound.primaryAt idle known

theorem yields_value (text : String) : (value text).Yields Fits := by
  refine (yields_work text _ .assignment false (known_tokens _ _)).bind fun s good => ?_
  split
  · exact .pure good.1
  · exact yields_fault _ _

end Sum

end SupervisedShell.Script
