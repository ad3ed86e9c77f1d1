import Mathlib
import SupervisedShell.Proofs.Text.Cipher
/-!
The cipher step by step, in words of the machine. Each step has a word for its result, and where the
word does not hold the result there is none. That never happens: the steps give the text of the
cipher, in as many bytes as were set aside for it.
-/

set_option autoImplicit false

namespace SupervisedShell.Caesar

theorem intercalate_space (ws : List (List Char)) (w : List Char) :
    [' '].intercalate (w :: ws) = w ++ ws.flatMap fun v => ' ' :: v := by
  induction ws generalizing w with
  | nil => simp
  | cons v ws ih => simp [List.intercalate_cons_cons, ih]

namespace Stepwise

def held (low high n : Int) : Option Int := if low ≤ n ∧ n ≤ high then some n else none

def octet (n : Int) : Option Int := held 0 255 n

def long (n : Int) : Option Int := held (-2 ^ 63) (2 ^ 63 - 1) n

def size (most n : Nat) : Option Nat := if n ≤ most then some n else none

/-- The number of the letter `shift` places on, in the alphabet that starts at the
number `first`. -/
def turned (first shift code : Int) : Option Int := do
  let place ← octet (code - first)
  let turn ← long (shift % 26)
  let sum ← long (place + turn)
  let offset ← octet (sum.tmod 26)
  octet (first + offset)

def shiftLetter (first : Char) (shift : Int) (c : Char) : Option Char := do
  let start ← octet first.toNat
  let code ← octet c.toNat
  let code ← turned start shift code
  return .ofNat code.toNat

def shiftChar (shift : Int) (c : Char) : Option Char :=
  if c.isLower then shiftLetter 'a' shift c
  else if c.isUpper then shiftLetter 'A' shift c
  else some c

def joinedSize (most : Nat) (words : List String) : Option Nat := do
  let letters ← words.foldlM (fun n w => size most (n + w.utf8ByteSize)) 0
  size most (letters + (words.length - 1))

/-- Adds a word with its place to the text, and a space before all words but the first. -/
def extend (shift : Int) (text : List Char) (word : String × Nat) : Option (List Char) := do
  let shifted ← word.1.toList.mapM (shiftChar shift)
  return (if 0 < word.2 then text ++ [' '] else text) ++ shifted

/-- Asks for the bytes first, and shortens the shift before it is used. -/
def encrypt (most : Nat) (granted : Nat → Bool) (shift : Int) (words : List String) :
    Option (Except Error String) := do
  let bytes ← joinedSize most words
  if granted bytes then
    let turn ← long (shift % 26)
    let text ← words.zipIdx.foldlM (extend turn) []
    return .ok (.ofList text)
  else
    return .error (.allocation bytes)

theorem octet_eq {n : Int} (low : 0 ≤ n) (high : n ≤ 255) : octet n = some n :=
  if_pos ⟨low, high⟩

theorem long_eq {n : Int} (low : -2 ^ 63 ≤ n) (high : n ≤ 2 ^ 63 - 1) : long n = some n :=
  if_pos ⟨low, high⟩

theorem size_eq {most n : Nat} (fits : n ≤ most) : size most n = some n := if_pos fits

theorem long_turn (shift : Int) : long (shift % 26) = some (shift % 26) :=
  long_eq (by omega) (by omega)

theorem turned_eq {first place : Int} (shift : Int) (low : 0 ≤ first) (high : first ≤ 230)
    (start : 0 ≤ place) (inside : place < 26) :
    turned first shift (first + place) = some (first + (place + shift) % 26) := by
  have placed : octet (first + place - first) = some place := by
    have same : first + place - first = place := by omega
    rw [same]
    exact octet_eq start (by omega)
  have summed : long (place + shift % 26) = some (place + shift % 26) :=
    long_eq (by omega) (by omega)
  have reduced : octet ((place + shift % 26).tmod 26) = some ((place + shift) % 26) := by
    have same : (place + shift % 26) % 26 = (place + shift) % 26 := by omega
    rw [Int.tmod_eq_emod_of_nonneg (by omega), same]
    exact octet_eq (by omega) (by omega)
  have moved : octet (first + (place + shift) % 26) = some (first + (place + shift) % 26) :=
    octet_eq (by omega) (by omega)
  simp only [turned, placed, long_turn, summed, reduced, moved, Option.bind_eq_bind,
    Option.bind_some]

theorem shiftLetter_eq {first : Char} (cased : first = 'a' ∨ first = 'A') (shift : Int)
    {place : Nat} (inside : place < 26) : shiftLetter first shift (.ofNat (first.toNat + place)) =
      some (.ofNat (first.toNat + ((place + shift) % 26).toNat)) := by
  have low : first.toNat ≤ 97 := by rcases cased with rfl | rfl <;> decide
  have start : octet first.toNat = some (first.toNat : Int) := octet_eq (by omega) (by omega)
  have code : octet (Char.ofNat (first.toNat + place)).toNat =
      some ((first.toNat : Int) + place) := by
    rw [toNat_letter cased inside]
    exact octet_eq (by omega) (by omega)
  have turn : turned first.toNat shift (first.toNat + place) =
      some (first.toNat + (place + shift) % 26) :=
    turned_eq shift (by omega) (by omega) (by omega) (by omega)
  have whole : ((first.toNat : Int) + (place + shift) % 26).toNat =
      first.toNat + ((place + shift) % 26).toNat := by omega
  simp only [shiftLetter, start, code, turn, whole, Option.bind_eq_bind, Option.bind_some,
    Option.pure_def]

theorem shiftChar_eq (shift : Int) (c : Char) :
    shiftChar shift c = some (Caesar.shiftChar shift c) := by
  by_cases small : c.isLower
  · have known := (isLower_iff c).mp small
    rw [lower_eq] at known
    obtain ⟨place, inside, rfl⟩ := mem_lettersFrom.mp known
    rw [shiftChar, if_pos small, shiftLetter_eq (.inl rfl) shift inside,
      shiftChar_letter (.inl rfl) shift inside]
  · by_cases capital : c.isUpper
    · have known := (isUpper_iff c).mp capital
      rw [upper_eq] at known
      obtain ⟨place, inside, rfl⟩ := mem_lettersFrom.mp known
      rw [shiftChar, if_neg small, if_pos capital, shiftLetter_eq (.inr rfl) shift inside,
        shiftChar_letter (.inr rfl) shift inside]
    · rw [shiftChar, if_neg small, if_neg capital, Caesar.shiftChar, if_neg small, if_neg capital]

theorem mapM_shiftChar (shift : Int) (text : List Char) :
    text.mapM (shiftChar shift) = some (text.map (Caesar.shiftChar shift)) := by
  induction text with
  | nil => rfl
  | cons c text ih => simp [List.mapM_cons, shiftChar_eq, ih]

/-- A shift that was shortened before turns letters like the shift itself. -/
theorem shiftChar_shortened (shift : Int) :
    Caesar.shiftChar (shift % 26) = Caesar.shiftChar shift := by
  funext c
  simp [Caesar.shiftChar, rotate, alphabet]

theorem extend_eq (shift : Int) (text : List Char) (w : String) (i : Nat) :
    extend shift text (w, i) =
    some ((if 0 < i then text ++ [' '] else text) ++ w.toList.map (Caesar.shiftChar shift)) := by
  simp only [extend, mapM_shiftChar, Option.bind_eq_bind, Option.bind_some, Option.pure_def]

/-- Behind the first word each word comes with a space. -/
theorem extend_behind (shift : Int) (words : List String) (text : List Char) (i : Nat) :
    (words.zipIdx (i + 1)).foldlM (extend shift) text =
      some (text ++ words.flatMap fun w => ' ' :: w.toList.map (Caesar.shiftChar shift)) := by
  induction words generalizing text i with
  | nil => simp
  | cons w words ih =>
    rw [List.zipIdx_cons, List.foldlM_cons, extend_eq, if_pos (Nat.succ_pos i), Option.bind_eq_bind,
      Option.bind_some, ih, List.flatMap_cons]
    simp

theorem extend_all (shift : Int) (words : List String) :
    words.zipIdx.foldlM (extend shift) [] = some (Caesar.encrypt shift words).toList := by
  rw [Caesar.encrypt, String.toList_ofList]
  cases words with
  | nil => rfl
  | cons w words =>
    rw [List.zipIdx_cons, List.foldlM_cons, extend_eq, Option.bind_eq_bind, Option.bind_some,
      extend_behind, List.map_cons, intercalate_space, List.flatMap_map]
    rfl

theorem letters_eq {most : Nat} (words : List String) (n : Nat)
    (fits : n + (words.map String.utf8ByteSize).sum ≤ most) :
    words.foldlM (fun n w => size most (n + w.utf8ByteSize)) n =
      some (n + (words.map String.utf8ByteSize).sum) := by
  induction words generalizing n with
  | nil => simp
  | cons w words ih =>
    rw [List.map_cons, List.sum_cons, ← Nat.add_assoc] at fits ⊢
    rw [List.foldlM_cons, size_eq (by omega), Option.bind_eq_bind, Option.bind_some, ih _ fits]

end Stepwise

theorem joinedSize_eq (words : List String) :
    joinedSize words = (words.map String.utf8ByteSize).sum + (words.length - 1) := by
  have above (k : Nat) : words.foldr (fun w n => w.utf8ByteSize + n) k =
      (words.map String.utf8ByteSize).sum + k := by
    induction words with
    | nil => simp
    | cons w words ih => simp [ih, Nat.add_assoc]
  exact above (words.length - 1)

theorem Stepwise.joinedSize_eq {most : Nat} {words : List String}
    (fits : Caesar.joinedSize words ≤ most) :
    joinedSize most words = some (Caesar.joinedSize words) := by
  rw [Caesar.joinedSize_eq] at fits ⊢
  rw [joinedSize, letters_eq words 0 (by omega), Option.bind_eq_bind, Option.bind_some,
    Nat.zero_add, size_eq fits]

/-- A letter and the letter in its place both take one byte. -/
theorem Rotates.utf8Size_eq {s : Int} {c d : Char} (h : Rotates s c d) :
    d.utf8Size = c.utf8Size := by
  cases h with
  | @letter letters _ _ _ cased source target =>
    have single : letters.all (fun c => c.utf8Size == 1) = true := by
      rcases cased with rfl | rfl
      · decide
      · decide
    have width (c : Char) (known : c ∈ letters) : c.utf8Size = 1 := by
      simpa using List.all_eq_true.mp single c known
    rw [width c (List.mem_of_getElem? source), width d (List.mem_of_getElem? target)]
  | other => rfl

theorem utf8Len_shifted (s : Int) (text : List Char) :
    String.utf8Len (text.map (shiftChar s)) = String.utf8Len text := by
  induction text with
  | nil => rfl
  | cons c text ih =>
    have width : (shiftChar s c).utf8Size = c.utf8Size := (rotates_iff.mpr rfl).utf8Size_eq
    rw [List.map_cons, String.utf8Len_cons, String.utf8Len_cons, ih, width]

theorem utf8Len_joined (words : List String) :
    String.utf8Len (joined words) = joinedSize words := by
  rw [joinedSize_eq, joined]
  cases words with
  | nil => rfl
  | cons w words =>
    have spaced : String.utf8Len ((words.map String.toList).flatMap fun v => ' ' :: v) =
        (words.map String.utf8ByteSize).sum + words.length := by
      induction words with
      | nil => rfl
      | cons v words ih =>
        have space : ' '.utf8Size = 1 := rfl
        rw [List.map_cons, List.flatMap_cons, String.utf8Len_append, String.utf8Len_cons,
          String.utf8Len_toList, ih, List.map_cons, List.sum_cons, List.length_cons, space]
        omega
    rw [List.map_cons, intercalate_space, String.utf8Len_append, String.utf8Len_toList, spaced,
      List.map_cons, List.sum_cons, List.length_cons]
    omega

theorem utf8ByteSize_encrypt (s : Int) (words : List String) :
    (encrypt s words).utf8ByteSize = joinedSize words := by
  rw [encrypt_eq, String.utf8ByteSize_ofList, utf8Len_shifted, utf8Len_joined]

/-- Words whose joined size the machine can count are encrypted without a step that its words do
not hold: every letter goes on by the shift in the alphabet of its case, all else stays, and the
bytes of the text are those that were asked for. If they are not granted, that is told and nothing
else is done. -/
theorem encrypt_stepwise (most : Nat) (granted : Nat → Bool) (s : Int) {words : List String}
    (fits : joinedSize words ≤ most) :
    Stepwise.joinedSize most words = some (joinedSize words) ∧
      Stepwise.encrypt most granted s words = some
        (if granted (joinedSize words) then .ok (encrypt s words)
          else .error (.allocation (joinedSize words))) ∧
      (joined words).mapM (Stepwise.shiftChar s) = some (encrypt s words).toList ∧
      (encrypt s words).toList = (joined words).map (shiftChar s) ∧
      List.Forall₂ (Rotates s) (joined words) (encrypt s words).toList ∧
      (encrypt s words).utf8ByteSize = joinedSize words := by
  have size := Stepwise.joinedSize_eq fits
  have text : (encrypt s words).toList = (joined words).map (shiftChar s) := by
    rw [encrypt_eq, String.toList_ofList]
  have shortened : encrypt (s % 26) words = encrypt s words := by
    rw [encrypt_eq, encrypt_eq, Stepwise.shiftChar_shortened]
  refine ⟨size, ?_, ?_, text, forall_rotates_iff.mpr text, utf8ByteSize_encrypt s words⟩
  · rw [Stepwise.encrypt, size, Option.bind_eq_bind, Option.bind_some]
    cases room : granted (joinedSize words) with
    | true =>
      rw [if_pos rfl, if_pos rfl, Stepwise.long_turn, Option.bind_eq_bind, Option.bind_some,
        Stepwise.extend_all, Option.bind_eq_bind, Option.bind_some, shortened, String.ofList_toList]
      rfl
    | false => rfl
  · rw [Stepwise.mapM_shiftChar, text]

/-- The lowest shift of 64 bits turns letters by 18, over empty words, spaces and characters
of two bytes. -/
theorem encrypt_lowest_shift : joinedSize ["", "Zé", "a b"] ≤ 18446744073709551615 ∧
    Stepwise.encrypt 18446744073709551615 (fun _ => true) (-9223372036854775808)
      ["", "Zé", "a b"] =
      some (.ok " Ré s t") ∧ " Ré s t".utf8ByteSize = 8 := by
  have fits : joinedSize ["", "Zé", "a b"] ≤ 18446744073709551615 := by decide
  have told := encrypt_stepwise 18446744073709551615 (fun _ => true) (-9223372036854775808) fits
  refine ⟨fits, ?_, by decide⟩
  rw [told.2.1]
  cbv

end SupervisedShell.Caesar
