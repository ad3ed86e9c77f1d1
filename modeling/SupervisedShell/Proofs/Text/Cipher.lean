import Mathlib.Data.List.Forall2
import SupervisedShell.Caesar
import SupervisedShell.Proofs.Text.Tokens

set_option autoImplicit false

namespace SupervisedShell.Caesar

def lower : List Char := "abcdefghijklmnopqrstuvwxyz".toList

def upper : List Char := "ABCDEFGHIJKLMNOPQRSTUVWXYZ".toList

/-- A letter moves on in the alphabet of its case, and behind the end from the start again. All
else stays. -/
inductive Rotates (shift : Int) : Char → Char → Prop where
  | letter {letters : List Char} {place : Nat} {c d : Char}
      (cased : letters = lower ∨ letters = upper) (source : letters[place]? = some c)
      (target : letters[((place + shift) % 26).toNat]? = some d) :
    Rotates shift c d
  | other {c : Char} (notLower : c ∉ lower) (notUpper : c ∉ upper) : Rotates shift c c

def joined (words : List String) : List Char := [' '].intercalate (words.map String.toList)

def lettersFrom (first : Char) : List Char :=
  (List.range 26).map fun place => .ofNat (first.toNat + place)

theorem lower_eq : lower = lettersFrom 'a' := by decide

theorem upper_eq : upper = lettersFrom 'A' := by decide

theorem lettersFrom_place {first c : Char} {place : Nat} :
    (lettersFrom first)[place]? = some c ↔ place < 26 ∧ c = .ofNat (first.toNat + place) := by
  by_cases inside : place < 26
  · simp [lettersFrom, inside, eq_comm]
  · simp [lettersFrom, inside]

theorem mem_lettersFrom {first c : Char} :
    c ∈ lettersFrom first ↔ ∃ place < 26, c = .ofNat (first.toNat + place) := by
  simp [lettersFrom, eq_comm]

theorem mem_of_range {first c : Char} (low : first.toNat ≤ c.toNat)
    (high : c.toNat < first.toNat + 26) :
    c ∈ lettersFrom first := by
  refine mem_lettersFrom.mpr ⟨c.toNat - first.toNat, by omega, ?_⟩
  rw [Nat.add_sub_cancel' low, Char.ofNat_toNat]

theorem isLower_iff (c : Char) : c.isLower = true ↔ c ∈ lower := by
  rw [lower_eq]
  constructor
  · intro h
    change (decide ('a'.val ≤ c.val) && decide (c.val ≤ 'z'.val)) = true at h
    have range : 97 ≤ c.toNat ∧ c.toNat ≤ 122 := by
      simpa [UInt32.le_iff_toNat_le, ← Char.toNat_val] using h
    exact mem_of_range range.1 (Nat.lt_succ_of_le range.2)
  · have all : (lettersFrom 'a').all Char.isLower = true := by decide
    exact List.all_eq_true.mp all c

theorem isUpper_iff (c : Char) : c.isUpper = true ↔ c ∈ upper := by
  rw [upper_eq]
  constructor
  · intro h
    have bounds : 'A'.val ≤ c.val ∧ c.val ≤ 'Z'.val := of_decide_eq_true h
    have range : 65 ≤ c.toNat ∧ c.toNat ≤ 90 := by
      simpa [UInt32.le_iff_toNat_le, ← Char.toNat_val] using bounds
    exact mem_of_range range.1 (Nat.lt_succ_of_le range.2)
  · have all : (lettersFrom 'A').all Char.isUpper = true := by decide
    exact List.all_eq_true.mp all c

/-- The numbers of the letters stand in a row. -/
theorem toNat_letter {first : Char} (cased : first = 'a' ∨ first = 'A') {place : Nat}
    (inside : place < 26) :
    (Char.ofNat (first.toNat + place)).toNat = first.toNat + place := by
  have small : ∀ place < 26, (Char.ofNat ('a'.toNat + place)).toNat = 'a'.toNat + place := by
    decide
  have capital : ∀ place < 26, (Char.ofNat ('A'.toNat + place)).toNat = 'A'.toNat + place := by
    decide
  rcases cased with rfl | rfl
  · exact small place inside
  · exact capital place inside

theorem shiftChar_letter {first : Char} (cased : first = 'a' ∨ first = 'A') (shift : Int)
    {place : Nat} (inside : place < 26) : shiftChar shift (.ofNat (first.toNat + place)) =
      .ofNat (first.toNat + ((place + shift) % 26).toNat) := by
  have turned : ((place : Int) + shift % 26) % 26 = (place + shift) % 26 := by omega
  have moved : rotate first shift (.ofNat (first.toNat + place)) =
      .ofNat (first.toNat + ((place + shift) % 26).toNat) := by
    simp only [rotate, toNat_letter cased inside, Nat.add_sub_cancel_left, alphabet,
      Int.cast_ofNat_Int, turned]
  have known : Char.ofNat (first.toNat + place) ∈ lettersFrom first :=
    mem_lettersFrom.mpr ⟨place, inside, rfl⟩
  rw [← moved]
  rcases cased with rfl | rfl
  · rw [← lower_eq, ← isLower_iff] at known
    rw [shiftChar, if_pos known]
  · have capital : (lettersFrom 'A').all (fun c => !c.isLower) = true := by decide
    have notLower := List.all_eq_true.mp capital _ known
    rw [← upper_eq, ← isUpper_iff] at known
    rw [shiftChar, if_neg (by simpa using notLower), if_pos known]

theorem shiftChar_other {c : Char} (notLower : c ∉ lower) (notUpper : c ∉ upper) (shift : Int) :
    shiftChar shift c = c := by
  rw [shiftChar, if_neg (mt (isLower_iff c).mp notLower), if_neg (mt (isUpper_iff c).mp notUpper)]

theorem alphabet_cases {letters : List Char} (cased : letters = lower ∨ letters = upper) :
    ∃ first, (first = 'a' ∨ first = 'A') ∧ letters = lettersFrom first := by
  rcases cased with rfl | rfl
  · exact ⟨'a', .inl rfl, lower_eq⟩
  · exact ⟨'A', .inr rfl, upper_eq⟩

theorem rotates_letter {letters : List Char} (cased : letters = lower ∨ letters = upper)
    (shift : Int) {c : Char} (known : c ∈ letters) : Rotates shift c (shiftChar shift c) := by
  obtain ⟨first, start, same⟩ := alphabet_cases cased
  obtain ⟨place, inside, rfl⟩ := mem_lettersFrom.mp (same ▸ known)
  have source : letters[place]? = some (.ofNat (first.toNat + place)) :=
    same ▸ lettersFrom_place.mpr ⟨inside, rfl⟩
  refine .letter cased source ?_
  rw [shiftChar_letter start shift inside, same]
  exact lettersFrom_place.mpr ⟨by omega, rfl⟩

theorem rotates_iff {shift : Int} {c d : Char} : Rotates shift c d ↔ d = shiftChar shift c := by
  constructor
  · rintro (⟨cased, source, target⟩ | ⟨notLower, notUpper⟩)
    · obtain ⟨first, start, rfl⟩ := alphabet_cases cased
      obtain ⟨inside, rfl⟩ := lettersFrom_place.mp source
      rw [shiftChar_letter start shift inside]
      exact (lettersFrom_place.mp target).2
    · exact (shiftChar_other notLower notUpper shift).symm
  · rintro rfl
    by_cases small : c ∈ lower
    · exact rotates_letter (.inl rfl) shift small
    · by_cases capital : c ∈ upper
      · exact rotates_letter (.inr rfl) shift capital
      · rw [shiftChar_other small capital]
        exact .other small capital

theorem forall_rotates_iff {shift : Int} {text out : List Char} :
    List.Forall₂ (Rotates shift) text out ↔ out = text.map (shiftChar shift) := by
  induction text generalizing out with
  | nil => simp
  | cons c text ih => simp [List.forall₂_cons_left_iff, rotates_iff, ih]

theorem Rotates.back {s t : Int} (round : (26 : Int) ∣ s + t) {c d : Char} (h : Rotates s c d) :
    Rotates t d c := by
  cases h with
  | @letter letters place _ _ cased source target =>
    have inside : place < 26 := by
      obtain ⟨first, -, rfl⟩ := alphabet_cases cased
      exact (lettersFrom_place.mp source).1
    have home : ((((place + s) % 26).toNat + t) % 26).toNat = place := by omega
    exact .letter cased target (by rwa [home])
  | other notLower notUpper => exact .other notLower notUpper

theorem Rotates.isSeparator_eq {s : Int} {c d : Char} (h : Rotates s c d) :
    isSeparator d = isSeparator c := by
  cases h with
  | @letter letters _ _ _ cased source target =>
    have solid : Solid letters := by
      rcases cased with rfl | rfl
      · exact solid_of_all (by decide) (by decide)
      · exact solid_of_all (by decide) (by decide)
    rw [solid.2 c (List.mem_of_getElem? source), solid.2 d (List.mem_of_getElem? target)]
  | other => rfl

theorem isSeparator_shiftChar (s : Int) (c : Char) : isSeparator (shiftChar s c) = isSeparator c :=
  (rotates_iff.mpr rfl).isSeparator_eq

theorem shiftChar_back {s t : Int} (round : (26 : Int) ∣ s + t) (c : Char) :
    shiftChar t (shiftChar s c) = c :=
  (rotates_iff.mp ((rotates_iff.mpr rfl).back round)).symm

theorem map_intercalate_space (s : Int) (ws : List (List Char)) :
    ([' '].intercalate ws).map (shiftChar s) =
      [' '].intercalate (ws.map (List.map (shiftChar s))) := by
  induction ws with
  | nil => rfl
  | cons w ws ih =>
    cases ws with
    | nil => simp
    | cons v vs =>
      have space : [' '].map (shiftChar s) = [' '] := rfl
      rw [List.map_cons, List.map_cons, List.intercalate_cons_cons, List.intercalate_cons_cons,
        List.map_append, List.map_append, space, ih, List.map_cons]

theorem ofList_joined (words : List String) :
    String.ofList (joined words) = " ".intercalate words := by
  rw [← String.toList_inj, String.toList_ofList, String.toList_intercalate]
  rfl

theorem encrypt_eq (s : Int) (words : List String) :
    encrypt s words = .ofList ((joined words).map (shiftChar s)) := by
  rw [encrypt, joined, map_intercalate_space, List.map_map]
  rfl

end SupervisedShell.Caesar
