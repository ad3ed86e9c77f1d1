import Mathlib.Data.Int.ModEq
import SupervisedShell.Proofs.Text.Stepwise

set_option autoImplicit false

namespace SupervisedShell.Caesar

def HasLetter (words : List String) : Prop :=
  ∃ w ∈ words, ∃ c ∈ w.toList, c ∈ lower ∨ c ∈ upper

theorem shiftChar_congr {s t : Int} (same : s ≡ t [ZMOD 26]) : shiftChar s = shiftChar t := by
  rw [← Stepwise.shiftChar_shortened s, ← Stepwise.shiftChar_shortened t, same]

theorem shiftChar_shiftChar (s t : Int) (c : Char) :
    shiftChar t (shiftChar s c) = shiftChar (s + t) c := by
  have letters {first : Char} (cased : first = 'a' ∨ first = 'A')
      (known : c ∈ lettersFrom first) :
      shiftChar t (shiftChar s c) = shiftChar (s + t) c := by
    obtain ⟨place, inside, rfl⟩ := mem_lettersFrom.mp known
    have turned : ((((place + s) % 26).toNat + t) % 26).toNat = ((place + (s + t)) % 26).toNat := by
      omega
    rw [shiftChar_letter cased s inside, shiftChar_letter cased t (by omega), turned,
      shiftChar_letter cased (s + t) inside]
  by_cases small : c ∈ lower
  · exact letters (.inl rfl) (lower_eq ▸ small)
  · by_cases capital : c ∈ upper
    · exact letters (.inr rfl) (upper_eq ▸ capital)
    · rw [shiftChar_other small capital, shiftChar_other small capital,
        shiftChar_other small capital]

theorem shiftChar_eq_iff {c : Char} (letter : c ∈ lower ∨ c ∈ upper) (s t : Int) :
    shiftChar s c = shiftChar t c ↔ s ≡ t [ZMOD 26] := by
  constructor
  · intro same
    have letters {first : Char} (cased : first = 'a' ∨ first = 'A')
        (known : c ∈ lettersFrom first) :
        s ≡ t [ZMOD 26] := by
      obtain ⟨place, inside, rfl⟩ := mem_lettersFrom.mp known
      have numbers := congrArg Char.toNat same
      rw [shiftChar_letter cased s inside, shiftChar_letter cased t inside,
        toNat_letter cased (by omega), toNat_letter cased (by omega)] at numbers
      have places : ((place : Int) + s) % 26 = (place + t) % 26 := by omega
      exact Int.ModEq.add_left_cancel' place places
    rcases letter with small | capital
    · exact letters (.inl rfl) (lower_eq ▸ small)
    · exact letters (.inr rfl) (upper_eq ▸ capital)
  · intro same
    rw [shiftChar_congr same]

theorem shiftChar_zero (c : Char) : shiftChar 0 c = c := by
  have twice : shiftChar 0 (shiftChar 0 c) = c := shiftChar_back (by decide) c
  rwa [shiftChar_shiftChar] at twice

theorem joined_singleton (w : String) : joined [w] = w.toList := by
  rw [joined, List.map_singleton, List.intercalate_singleton]

theorem joined_cons (w : String) (words : List String) :
    joined (w :: words) = w.toList ++ words.flatMap fun v => ' ' :: v.toList := by
  rw [joined, List.map_cons, intercalate_space, List.flatMap_map]

theorem mem_joined {words : List String} {w : String} (known : w ∈ words) {c : Char}
    (inside : c ∈ w.toList) :
    c ∈ joined words := by
  cases words with
  | nil => simp at known
  | cons first others =>
    rw [joined_cons, List.mem_append]
    rcases List.mem_cons.mp known with rfl | later
    · exact .inl inside
    · exact .inr (List.mem_flatMap.mpr ⟨w, later, List.mem_cons_of_mem _ inside⟩)

theorem eq_space_or_of_mem_joined {words : List String} {c : Char} (known : c ∈ joined words) :
    c = ' ' ∨ ∃ w ∈ words, c ∈ w.toList := by
  cases words with
  | nil => simp [joined] at known
  | cons first others =>
    rw [joined_cons, List.mem_append] at known
    rcases known with inside | later
    · exact .inr ⟨first, List.mem_cons_self, inside⟩
    · obtain ⟨w, listed, within⟩ := List.mem_flatMap.mp later
      rcases List.mem_cons.mp within with space | inside
      · exact .inl space
      · exact .inr ⟨w, List.mem_cons_of_mem _ listed, inside⟩

theorem encrypt_zero (words : List String) : encrypt 0 words = " ".intercalate words := by
  have still : shiftChar 0 = id := funext shiftChar_zero
  rw [encrypt_eq, still, List.map_id, ofList_joined]

theorem encrypt_encrypt (s t : Int) (words : List String) :
    encrypt t [encrypt s words] = encrypt (s + t) words := by
  have composed : shiftChar t ∘ shiftChar s = shiftChar (s + t) :=
    funext (shiftChar_shiftChar s t)
  rw [encrypt_eq, encrypt_eq, encrypt_eq, joined_singleton, String.toList_ofList,
    List.map_map, composed]

theorem encrypt_congr {s t : Int} (same : s ≡ t [ZMOD 26]) (words : List String) :
    encrypt s words = encrypt t words := by
  rw [encrypt_eq, encrypt_eq, shiftChar_congr same]

theorem encrypt_eq_iff_of_letter {words : List String} (letter : HasLetter words) (s t : Int) :
    encrypt s words = encrypt t words ↔ s ≡ t [ZMOD 26] := by
  constructor
  · intro same
    obtain ⟨w, known, c, inside, cased⟩ := letter
    rw [encrypt_eq, encrypt_eq, String.ofList_inj, List.map_inj_left] at same
    exact (shiftChar_eq_iff cased s t).mp (same c (mem_joined known inside))
  · exact fun same => encrypt_congr same words

theorem encrypt_of_no_letter {words : List String} (none : ¬ HasLetter words) (s : Int) :
    encrypt s words = " ".intercalate words := by
  have still : ∀ c ∈ joined words, shiftChar s c = id c := by
    intro c known
    have other : ¬ (c ∈ lower ∨ c ∈ upper) := by
      rcases eq_space_or_of_mem_joined known with rfl | ⟨w, listed, inside⟩
      · decide
      · exact fun cased => none ⟨w, listed, c, inside, cased⟩
    exact shiftChar_other (fun small => other (.inl small)) (fun capital => other (.inr capital)) s
  rw [encrypt_eq, List.map_congr_left still, List.map_id, ofList_joined]

/-- The shifts of a text are the integers modulo 26. One behind another is their sum, opposite ones
undo each other but for the spaces between the words, and two of them give the same text if and only
if they are congruent, or there is no letter to be shifted. -/
theorem encrypt_residues (words : List String) :
    (∀ s t u : Int, u ≡ s + t [ZMOD 26] → encrypt t [encrypt s words] = encrypt u words) ∧
      (∀ s t : Int, t ≡ -s [ZMOD 26] →
        encrypt t [encrypt s words] = " ".intercalate words) ∧
      ∀ s t : Int, encrypt s words = encrypt t words ↔ s ≡ t [ZMOD 26] ∨
        ¬ HasLetter words := by
  refine ⟨fun s t u sum => ?_, fun s t opposite => ?_, fun s t => ?_⟩
  · rw [encrypt_encrypt, encrypt_congr sum]
  · have home : s + t ≡ 0 [ZMOD 26] := by
      have cancelled : s + t ≡ s + -s [ZMOD 26] := opposite.add_left s
      rwa [Int.add_right_neg] at cancelled
    rw [encrypt_encrypt, encrypt_congr home, encrypt_zero]
  · by_cases letter : HasLetter words
    · rw [encrypt_eq_iff_of_letter letter, or_iff_left (not_not_intro letter)]
    · rw [encrypt_of_no_letter letter, encrypt_of_no_letter letter]
      exact iff_of_true rfl (.inr letter)

/-- The greatest shift of 64 bits, twice. The sum is beyond 64 bits and turns letters by
14, not by 15. -/
theorem encrypt_residues_of_greatest :
    (14 : Int) ≡ 9223372036854775807 + 9223372036854775807 [ZMOD 26] ∧
      (-9223372036854775807 : Int) ≡ -9223372036854775807 [ZMOD 26] ∧ HasLetter
      ["", "Zé", "a b"] ∧
      encrypt 9223372036854775807 [encrypt 9223372036854775807 ["", "Zé", "a b"]] = " Né o p" ∧
      encrypt (-9223372036854775807) [encrypt 9223372036854775807 ["", "Zé", "a b"]] =
        " Zé a b" ∧
      encrypt 15 ["", "Zé", "a b"] ≠ encrypt 14 ["", "Zé", "a b"] := by
  have sum : (14 : Int) ≡ 9223372036854775807 + 9223372036854775807 [ZMOD 26] := by decide
  have opposite : (-9223372036854775807 : Int) ≡ -9223372036854775807 [ZMOD 26] := by decide
  have letter : HasLetter ["", "Zé", "a b"] :=
    ⟨"Zé", by decide, 'Z', by decide, .inr (by decide)⟩
  obtain ⟨sums, opposites, same⟩ := encrypt_residues ["", "Zé", "a b"]
  refine ⟨sum, opposite, letter, ?_, ?_, fun equal => ?_⟩
  · rw [sums _ _ 14 sum]
    cbv
  · rw [opposites _ _ opposite]
    cbv
  · rcases (same 15 14).mp equal with congruent | none
    · exact absurd congruent (by decide)
    · exact none letter

end SupervisedShell.Caesar
