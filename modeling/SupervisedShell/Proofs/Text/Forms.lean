import SupervisedShell.Text.Utf8
/-!
The forms of characters, byte by byte. The first byte says how many bytes follow it and what each of
them has to meet. Bytes that meet all of it are the form of one character, and each form is such
bytes. The first piece of any bytes is a character or else the bytes up to the first that does not
meet what it has to.
-/

set_option autoImplicit false

namespace SupervisedShell.Utf8

/-- What each byte behind a first one has to meet. -/
def Lead.tails : Lead → List (UInt8 → Bool)
  | .one => []
  | .two => [isTail]
  | .three lo hi => [within lo hi, isTail]
  | .four lo hi => [within lo hi, isTail, isTail]
  | .illFormed => [fun _ => false]

/-- How many bytes meet what they have to, up to the first that does not. -/
def met : List (UInt8 → Bool) → Bytes → Nat
  | p :: ps, b :: bs => if p b then met ps bs + 1 else 0
  | _, _ => 0

theorem met_le_length (ps : List (UInt8 → Bool)) (bs : Bytes) : met ps bs ≤ bs.length := by
  fun_induction met ps bs <;> simp_all

theorem met_le (ps : List (UInt8 → Bool)) (bs : Bytes) : met ps bs ≤ ps.length := by
  fun_induction met ps bs <;> simp_all

theorem met_take (ps : List (UInt8 → Bool)) (bs : Bytes) :
    met ps (bs.take (met ps bs)) = met ps bs := by
  fun_induction met ps bs <;> simp_all [met]

theorem met_le_append (ps : List (UInt8 → Bool)) (bs more : Bytes) :
    met ps bs ≤ met ps (bs ++ more) := by
  fun_induction met ps bs <;> simp_all [met]

theorem met_of_append (ps : List (UInt8 → Bool)) (bs more : Bytes)
    (all : met ps (bs ++ more) = (bs ++ more).length) : met ps bs = bs.length := by
  induction ps generalizing bs with
  | nil =>
    have none := met_le [] (bs ++ more)
    have none' := met_le [] bs
    rw [List.length_append] at all
    rw [List.length_nil] at none none'
    omega
  | cons p ps ih =>
    cases bs with
    | nil => rfl
    | cons b bs =>
      rw [List.cons_append, met, List.length_cons] at all
      split at all
      · next first => rw [met, if_pos first, ih bs (Nat.succ.inj all), List.length_cons]
      · simp at all

theorem met_append_replicate (ps : List (UInt8 → Bool)) (bs : Bytes) (all : met ps bs = bs.length)
    (tails : ∀ p ∈ ps.drop bs.length, p 0x80) :
    met ps (bs ++ List.replicate (ps.length - bs.length) 0x80) = ps.length := by
  induction ps generalizing bs with
  | nil => exact Nat.le_zero.mp (met_le [] _)
  | cons p ps ih =>
    cases bs with
    | nil =>
      obtain ⟨first, others⟩ := List.forall_mem_cons.mp tails
      have rest := ih [] (Nat.le_zero.mp (met_le_length ps [])) others
      rw [List.nil_append, List.length_nil, Nat.sub_zero] at rest ⊢
      rw [List.length_cons, List.replicate_succ, met, if_pos first, rest]
    | cons b bs =>
      rw [met, List.length_cons] at all
      split at all
      · next first =>
        have rest := ih bs (Nat.succ.inj all) tails
        rw [List.cons_append, met, if_pos first, List.length_cons, List.length_cons,
          Nat.add_sub_add_right, rest]
      · simp at all

theorem isTail_iff (b : UInt8) : isTail b = true ↔ 0x80 ≤ b.toNat ∧ b.toNat ≤ 0xBF := by
  simp [isTail, UInt8.le_iff_toNat_le]

theorem within_iff (lo hi b : UInt8) :
    within lo hi b = true ↔ lo.toNat ≤ b.toNat ∧ b.toNat ≤ hi.toNat := by
  simp [within, UInt8.le_iff_toNat_le]

namespace Lead

theorem ofByte_one_iff (b : UInt8) : ofByte b = .one ↔ b.toNat < 0x80 := by
  fun_cases ofByte b
  all_goals simp_all [UInt8.lt_iff_toNat_lt]

theorem ofByte_two_iff (b : UInt8) : ofByte b = .two ↔ 0xC2 ≤ b.toNat ∧ b.toNat < 0xE0 := by
  fun_cases ofByte b
  all_goals simp only [UInt8.lt_iff_toNat_lt, ← UInt8.toNat_inj] at *
  all_goals simp at *
  all_goals omega

theorem ofByte_three_iff (b c : UInt8) : (∃ lo hi, ofByte b = .three lo hi ∧ within lo hi c) ↔
    0xE0 ≤ b.toNat ∧ b.toNat < 0xF0 ∧ 0x80 ≤ c.toNat ∧ c.toNat ≤ 0xBF ∧
      (b.toNat = 0xE0 → 0xA0 ≤ c.toNat) ∧
      (b.toNat = 0xED → c.toNat ≤ 0x9F) := by
  fun_cases ofByte b
  all_goals simp only [UInt8.lt_iff_toNat_lt, ← UInt8.toNat_inj] at *
  all_goals simp [and_assoc, within_iff] at *
  all_goals omega

theorem ofByte_four_iff (b c : UInt8) : (∃ lo hi, ofByte b = .four lo hi ∧ within lo hi c) ↔
    0xF0 ≤ b.toNat ∧ b.toNat < 0xF5 ∧ 0x80 ≤ c.toNat ∧ c.toNat ≤ 0xBF ∧
      (b.toNat = 0xF0 → 0x90 ≤ c.toNat) ∧
      (b.toNat = 0xF4 → c.toNat ≤ 0x8F) := by
  fun_cases ofByte b
  all_goals simp only [UInt8.lt_iff_toNat_lt, ← UInt8.toNat_inj] at *
  all_goals simp [and_assoc, within_iff] at *
  all_goals omega

theorem tails_drop (lead : Lead) (n : Nat) : ∀ p ∈ lead.tails.drop (n + 1), p 0x80 := by
  have later : ∀ p ∈ lead.tails.tail, p = isTail := by
    cases lead <;> simp [tails]
  intro p known
  rw [← List.drop_tail] at known
  rw [later p (List.mem_of_mem_drop known)]
  decide

end Lead

theorem toNat_ofNat {n : Nat} (small : n < 256) : (UInt8.ofNat n).toNat = n :=
  UInt8.toNat_ofNat_of_lt' small

theorem ofNat_eq_iff {n : Nat} (small : n < 256) (b : UInt8) :
    UInt8.ofNat n = b ↔ n = b.toNat := by
  rw [← UInt8.toNat_inj, toNat_ofNat small]

theorem encodeChar_ofNat {n : Nat} (valid : n.isValidChar) : String.utf8EncodeChar (.ofNat n) =
    if n ≤ 0x7F then [.ofNat n]
    else if n ≤ 0x7FF then [.ofNat (n / 64 % 32 + 0xC0), .ofNat (n % 64 + 0x80)]
    else if n ≤ 0xFFFF then [.ofNat (n / 4096 % 16 + 0xE0), .ofNat (n / 64 % 64 + 0x80),
      .ofNat (n % 64 + 0x80)]
    else [.ofNat (n / 262144 % 8 + 0xF0), .ofNat (n / 4096 % 64 + 0x80),
      .ofNat (n / 64 % 64 + 0x80), .ofNat (n % 64 + 0x80)] := by
  have code : (Char.ofNat n).val.toNat = n := congrArg Char.toNat (dif_pos valid)
  rw [String.utf8EncodeChar, code]

theorem encodeChar_one {b : UInt8} (lead : Lead.ofByte b = .one) :
    String.utf8EncodeChar (.ofNat b.toNat) = [b] := by
  have small := (Lead.ofByte_one_iff b).mp lead
  rw [encodeChar_ofNat (by unfold Nat.isValidChar; omega), if_pos (by omega), UInt8.ofNat_toNat]

theorem encodeChar_two {b c : UInt8} (lead : Lead.ofByte b = .two) (tail : isTail c) :
    String.utf8EncodeChar (.ofNat (value 5 b [c])) = [b, c] := by
  have bounds := (Lead.ofByte_two_iff b).mp lead
  have range := (isTail_iff c).mp tail
  have code : value 5 b [c] = (b.toNat - 0xC0) * 64 + (c.toNat - 0x80) := by
    simp [value]
    omega
  rw [code, encodeChar_ofNat (by unfold Nat.isValidChar; omega), if_neg (by omega),
    if_pos (by omega)]
  simp only [List.cons.injEq, and_true]
  rw [ofNat_eq_iff (by omega), ofNat_eq_iff (by omega)]
  omega

theorem encodeChar_three {b c d lo hi : UInt8} (lead : Lead.ofByte b = .three lo hi)
    (inside : within lo hi c)
    (tail : isTail d) : String.utf8EncodeChar (.ofNat (value 4 b [c, d])) = [b, c, d] := by
  have bounds := (Lead.ofByte_three_iff b c).mp ⟨lo, hi, lead, inside⟩
  have range := (isTail_iff d).mp tail
  have code : value 4 b [c, d] = (b.toNat - 0xE0) * 4096 + (c.toNat - 0x80) * 64 +
      (d.toNat - 0x80) := by
    simp [value]
    omega
  rw [code, encodeChar_ofNat (by unfold Nat.isValidChar; omega), if_neg (by omega),
    if_neg (by omega), if_pos (by omega)]
  simp only [List.cons.injEq, and_true]
  rw [ofNat_eq_iff (by omega), ofNat_eq_iff (by omega), ofNat_eq_iff (by omega)]
  omega

theorem encodeChar_four {b c d e lo hi : UInt8} (lead : Lead.ofByte b = .four lo hi)
    (inside : within lo hi c) (tail : isTail d) (last : isTail e) :
    String.utf8EncodeChar (.ofNat (value 3 b [c, d, e])) = [b, c, d, e] := by
  have bounds := (Lead.ofByte_four_iff b c).mp ⟨lo, hi, lead, inside⟩
  have range := (isTail_iff d).mp tail
  have range' := (isTail_iff e).mp last
  have code : value 3 b [c, d, e] =
      (b.toNat - 0xF0) * 262144 + (c.toNat - 0x80) * 4096 + (d.toNat - 0x80) * 64 +
        (e.toNat - 0x80) := by
    simp [value]
    omega
  rw [code, encodeChar_ofNat (by unfold Nat.isValidChar; omega), if_neg (by omega),
    if_neg (by omega), if_neg (by omega)]
  simp only [List.cons.injEq, and_true]
  rw [ofNat_eq_iff (by omega), ofNat_eq_iff (by omega), ofNat_eq_iff (by omega),
    ofNat_eq_iff (by omega)]
  omega

/-- A form is as long as its first byte says, and each byte meets what that byte says of it. -/
theorem met_of_encodeChar {c : Char} {b : UInt8} {t : Bytes}
    (form : String.utf8EncodeChar c = b :: t) :
    met (Lead.ofByte b).tails t = t.length ∧ t.length = (Lead.ofByte b).tails.length := by
  have tail (k : Nat) (small : k < 64) : isTail (.ofNat (k + 0x80)) := by
    rw [isTail_iff, toNat_ofNat (by omega)]
    omega
  have valid : c.toNat.isValidChar := c.valid
  rw [← Char.ofNat_toNat c, encodeChar_ofNat valid] at form
  generalize c.toNat = n at *
  unfold Nat.isValidChar at valid
  split at form
  · obtain ⟨first, rfl⟩ := List.cons.inj form
    rw [ofNat_eq_iff (by omega)] at first
    have lead := (Lead.ofByte_one_iff b).mpr (by omega)
    simp [lead, Lead.tails, met]
  · split at form
    · obtain ⟨first, rfl⟩ := List.cons.inj form
      rw [ofNat_eq_iff (by omega)] at first
      have lead := (Lead.ofByte_two_iff b).mpr (by omega)
      simp only [lead, Lead.tails, met, tail (n % 64) (by omega), if_true,
        List.length_singleton, and_self]
    · split at form
      · obtain ⟨first, rfl⟩ := List.cons.inj form
        rw [ofNat_eq_iff (by omega)] at first
        have second := toNat_ofNat (n := n / 64 % 64 + 0x80) (by omega)
        obtain ⟨lo, hi, lead, inside⟩ :=
          (Lead.ofByte_three_iff b (.ofNat (n / 64 % 64 + 0x80))).mpr (by omega)
        simp only [lead, Lead.tails, met, inside, tail (n % 64) (by omega), if_true,
          List.length_cons, List.length_nil, and_self]
      · obtain ⟨first, rfl⟩ := List.cons.inj form
        rw [ofNat_eq_iff (by omega)] at first
        have second := toNat_ofNat (n := n / 4096 % 64 + 0x80) (by omega)
        obtain ⟨lo, hi, lead, inside⟩ :=
          (Lead.ofByte_four_iff b (.ofNat (n / 4096 % 64 + 0x80))).mpr (by omega)
        simp only [lead, Lead.tails, met, inside, tail (n / 64 % 64) (by omega),
          tail (n % 64) (by omega), if_true, List.length_cons, List.length_nil, and_self]

theorem next_some {b : UInt8} {rest : Bytes} {c : Char} (read : (next b rest).1 = some c) :
    String.utf8EncodeChar c ++ (next b rest).2 = b :: rest := by
  revert read
  fun_cases next b rest with
  | case1 rest lead =>
    rintro ⟨⟩
    rw [encodeChar_one lead]
    rfl
  | case3 lead d r tail =>
    rintro ⟨⟩
    rw [encodeChar_two lead tail]
    rfl
  | case6 lo hi lead d e r inside tail =>
    rintro ⟨⟩
    rw [encodeChar_three lead inside tail]
    rfl
  | case12 lo hi lead d e f r inside tail last =>
    rintro ⟨⟩
    rw [encodeChar_four lead inside tail last]
    rfl
  | _ => rintro ⟨⟩

theorem met_nothing (bs : Bytes) : met [fun _ => false] bs = 0 := by
  cases bs <;> simp [met]

theorem next_none {b : UInt8} {rest : Bytes} (unread : (next b rest).1 = none) :
    met (Lead.ofByte b).tails rest < (Lead.ofByte b).tails.length ∧
      (next b rest).2 = rest.drop (met (Lead.ofByte b).tails rest) := by
  revert unread
  fun_cases next b rest
  all_goals simp [*, Lead.tails, met, met_nothing]

end SupervisedShell.Utf8
