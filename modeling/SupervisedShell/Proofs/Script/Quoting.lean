import Mathlib.Data.List.TakeWhile
import SupervisedShell.Proofs.Script.Reading
import SupervisedShell.Proofs.Text.Tokens
import SupervisedShell.Script.Builtin.Variables
import SupervisedShell.Script.Expansion
/-!
Words in quotes, and what they stand for.
-/

set_option autoImplicit false

namespace SupervisedShell.Script

namespace Piece

/-- A piece that stands for a character, or for the place of a quote. -/
def IsLiteral : Piece → Prop
  | char .. | mark => True
  | _ => False

def letter? : Piece → Option Char
  | char c _ => some c
  | _ => none

def atom (separates : Bool) : Piece → Atom
  | char c quoted => .char c quoted (separates && !quoted)
  | _ => .mark

end Piece

namespace Expansion

variable {m : Manner} {w : Word}

theorem literals_append (m : Manner) (w : Word) :
    literals m w ++ (w.drop (literals m w).length).map (Piece.atom m.separates) =
      w.map (Piece.atom m.separates) := by
  induction w with
  | nil => simp [literals]
  | cons p w ih =>
    cases p with
    | char c quoted => simpa [literals, Piece.atom] using ih
    | _ => simp [literals]

theorem word_literal (h : ∀ p ∈ w, p.IsLiteral) (n : Nat) :
    word m n w = pure ((w.drop n).map (Piece.atom m.separates)) := by
  induction w generalizing n with
  | nil => simp [word]
  | cons p w ih =>
    obtain ⟨first, others⟩ := List.forall_mem_cons.mp h
    cases n with
    | succ n => simp [word, ih others]
    | zero =>
      cases p with
      | char c quoted =>
        simp only [word, ih others, pure_bind, List.cons_append, literals_append]
        rfl
      | mark =>
        have whole : word m 0 (.mark :: w) = piece m .mark >>= fun first =>
            word m 0 w >>= fun more => pure (first ++ more) := by
          cases w with
          | nil => simp [word]
          | cons q w =>
            cases q with
            | parameter => cases (List.forall_mem_cons.mp others).1
            | _ => simp only [word]
        rw [whole, ih others, piece]
        rfl
      | _ => cases first

def letters (w : Word) : String := String.ofList (w.filterMap Piece.letter?)

theorem foldl_onto (separates : Bool) (h : ∀ p ∈ w, p.IsLiteral) (s : String) :
    (w.map (Piece.atom separates)).foldl Atom.onto s = s ++ letters w := by
  induction w generalizing s with
  | nil => simp [letters]
  | cons p w ih =>
    obtain ⟨first, others⟩ := List.forall_mem_cons.mp h
    rw [List.map_cons, List.foldl_cons, ih others]
    cases p with
    | char c quoted => simp [letters, Piece.atom, Piece.letter?, Atom.onto, String.ext_iff]
    | mark => rfl
    | _ => cases first

theorem text_atoms (separates : Bool) (h : ∀ p ∈ w, p.IsLiteral) :
    Atom.text (w.map (Piece.atom separates)) = letters w := by
  rw [Atom.text, foldl_onto separates h, String.empty_append]

theorem foldl_take (separators : List Char) (h : ∀ p ∈ w, p.IsLiteral) (as : List Atom) :
    (w.map (Piece.atom false)).foldl (Atom.Cutter.take separators) ⟨[], as, [], false⟩ =
      ⟨[], (w.map (Piece.atom false)).reverse ++ as, [], false⟩ := by
  induction w generalizing as with
  | nil => rfl
  | cons p w ih =>
    obtain ⟨first, others⟩ := List.forall_mem_cons.mp h
    have taken : Atom.Cutter.take separators ⟨[], as, [], false⟩ (p.atom false) =
        ⟨[], p.atom false :: as, [], false⟩ := by
      cases p <;> rfl
    rw [List.map_cons, List.foldl_cons, taken, ih others, List.reverse_cons, List.append_assoc]
    rfl

theorem fields_atoms (separators : List Char) (h : ∀ p ∈ w, p.IsLiteral) (nonempty : w ≠ []) :
    Atom.fields separators (w.map (Piece.atom false)) = [w.map (Piece.atom false)] := by
  have taken := foldl_take separators h []
  rw [List.append_nil] at taken
  rw [Atom.fields, Atom.Cutter.start, taken]
  simp [Atom.Cutter.isEmpty, Atom.Cutter.endField, Atom.Cutter.endPiece, nonempty]

def isTilde (p : Piece) : Bool := p.plain? = some '~'

theorem tilde_eq (r : Run) (ends : Char → Bool) (plain : w.head?.any isTilde = false) :
    tilde r ends w = w := by
  have apart : tilde? r ends w = none := by
    unfold tilde?
    split
    · cases plain
    · rfl
  rw [tilde, apart]

theorem fields_literal (capture : Script → Act String) (h : ∀ p ∈ w, p.IsLiteral)
    (plain : w.head?.any isTilde = false) (tame : ∀ p ∈ w, isMagic (p.atom false) = false)
    (nonempty : w ≠ []) : fields capture w = pure [letters w] := by
  have tame : (w.map (Piece.atom false)).any isMagic = false := by simpa using tame
  unfold fields
  simp only [tilde_eq _ _ plain, word_literal h, pure_bind, List.drop_zero,
    fields_atoms _ h nonempty, tame, Bool.not_false, Bool.or_true, List.map_cons, List.map_nil,
    text_atoms _ h]
  rfl

theorem isTilde_of_hidden (h : ∀ p ∈ w, p.plain? = none) : w.head?.any isTilde = false := by
  cases w with
  | nil => rfl
  | cons p w => simp [isTilde, h p List.mem_cons_self]

theorem tildes_eq (r : Run) (n : Nat) (h : ∀ p ∈ w, p.plain? = none) : tildes r n w = w := by
  cases n with
  | zero => rfl
  | succ n =>
    have first : (w.takeWhile fun p => !decide (p.plain? = some ':')) = w :=
      List.takeWhile_eq_self_iff.mpr fun p known => by simp [h p known]
    rw [tildes, tilde_eq r _ (isTilde_of_hidden h)]
    simp only [first, List.drop_length]

theorem assigned_literal (capture : Script → Act String) (h : ∀ p ∈ w, p.IsLiteral)
    (quoted : ∀ p ∈ w, p.plain? = none) : assigned capture w = pure (letters w) := by
  unfold assigned
  simp only [tildes_eq _ _ quoted, word_literal h, pure_bind, List.drop_zero, text_atoms _ h]
  rfl

end Expansion

namespace Segment

theorem isLiteral_of_mem {x : Segment} {p : Piece} (known : p ∈ x.word) : p.IsLiteral := by
  cases x with
  | bare c | escaped c =>
    cases List.mem_singleton.mp known
    trivial
  | single cs | double cs =>
    simp only [word, List.mem_cons, List.mem_append, List.mem_map, List.not_mem_nil, or_false]
      at known
    obtain rfl | ⟨c, -, rfl⟩ | rfl := known <;> trivial

theorem plain?_of_mem {x : Segment} {p : Piece} (quoted : x.isQuoted = true)
    (known : p ∈ x.word) : p.plain? = none := by
  cases x with
  | bare c => cases quoted
  | escaped c =>
    cases List.mem_singleton.mp known
    rfl
  | single cs | double cs =>
    simp only [word, List.mem_cons, List.mem_append, List.mem_map, List.not_mem_nil, or_false]
      at known
    obtain rfl | ⟨c, -, rfl⟩ | rfl := known <;> rfl

theorem filterMap_word (x : Segment) : x.word.filterMap Piece.letter? = x.letters := by
  have quoted (cs : List Char) : (cs.map (Piece.char · true)).filterMap Piece.letter? = cs := by
    rw [List.filterMap_map]
    exact List.filterMap_some
  cases x with
  | bare | escaped => rfl
  | single cs | double cs =>
    rw [word, List.filterMap_cons_none rfl, List.filterMap_append, quoted]
    exact List.append_nil cs

theorem word_ne_nil (x : Segment) : x.word ≠ [] := by cases x <;> exact List.cons_ne_nil _ _

theorem letters_flatMap (row : List Segment) :
    Expansion.letters (row.flatMap word) = String.ofList (row.flatMap letters) := by
  rw [Expansion.letters, List.filterMap_flatMap]
  simp only [filterMap_word]

/-- Nothing in such a segment is taken for a pattern. -/
def Tame : Segment → Prop
  | bare c => c ∉ ['*', '?', '[']
  | _ => True

theorem isMagic_of_mem {x : Segment} {p : Piece} (tame : x.Tame) (known : p ∈ x.word) :
    Expansion.isMagic (p.atom false) = false := by
  cases x with
  | bare c =>
    cases List.mem_singleton.mp known
    simpa [Tame, Expansion.isMagic, Piece.atom, Atom.letters, Glob.mayBeMagic, and_assoc]
      using tame
  | escaped c =>
    cases List.mem_singleton.mp known
    rfl
  | single cs | double cs =>
    simp only [word, List.mem_cons, List.mem_append, List.mem_map, List.not_mem_nil, or_false]
      at known
    obtain rfl | ⟨c, -, rfl⟩ | rfl := known <;> rfl

variable {row : List Segment}

theorem isLiteral_flatMap : ∀ p ∈ row.flatMap word, p.IsLiteral := by
  intro p known
  obtain ⟨x, -, known⟩ := List.mem_flatMap.mp known
  exact isLiteral_of_mem known

/-- A row of tame segments without a tilde in front stands for its letters, as one field. -/
theorem fields_row (capture : Script → Act String) (nonempty : row ≠ [])
    (tame : ∀ x ∈ row, x.Tame) (plain : row.head? ≠ some (.bare '~')) :
    Expansion.fields capture (row.flatMap word) =
      pure [String.ofList (row.flatMap letters)] := by
  obtain ⟨x, behind, rfl⟩ := List.exists_cons_of_ne_nil nonempty
  rw [← letters_flatMap]
  refine Expansion.fields_literal capture isLiteral_flatMap ?_ ?_ ?_
  · rw [List.flatMap_cons]
    cases x with
    | bare c => simpa [word, Expansion.isTilde, Piece.plain?] using plain
    | _ => rfl
  · intro p known
    obtain ⟨x, inside, known⟩ := List.mem_flatMap.mp known
    exact isMagic_of_mem (tame x inside) known
  · rw [List.flatMap_cons]
    exact List.append_ne_nil_of_left_ne_nil x.word_ne_nil _

theorem assigned_row (capture : Script → Act String) (quoted : ∀ x ∈ row, x.isQuoted = true) :
    Expansion.assigned capture (row.flatMap word) = pure (String.ofList (row.flatMap letters)) := by
  rw [← letters_flatMap]
  refine Expansion.assigned_literal capture isLiteral_flatMap fun p known => ?_
  obtain ⟨x, inside, known⟩ := List.mem_flatMap.mp known
  exact plain?_of_mem (quoted x inside) known

/-- Parts in single quotes, and between them what stands for a single quote. -/
def parted (apart : Segment) (parts : List (List Char)) : List Segment :=
  (parts.map single).intersperse apart

variable {apart : Segment} {parts : List (List Char)}

theorem parted_ne_nil (nonempty : parts ≠ []) : parted apart parts ≠ [] := by
  obtain ⟨p, parts, rfl⟩ := List.exists_cons_of_ne_nil nonempty
  cases parts <;> exact List.cons_ne_nil _ _

theorem text_parted (nonempty : parts ≠ []) :
    (parted apart parts).flatMap text =
      '\x27' :: (('\x27' :: (apart.text ++ ['\x27'])).intercalate parts ++ ['\x27']) := by
  induction parts with
  | nil => exact absurd rfl nonempty
  | cons p parts ih =>
    cases parts with
    | nil => simp [parted, text]
    | cons q parts =>
      have later := ih (List.cons_ne_nil q parts)
      rw [List.intercalate_cons_cons]
      simp only [parted, List.map_cons, List.intersperse_cons_cons, List.flatMap_cons] at later ⊢
      rw [later]
      simp [text]

theorem letters_parted (quote : apart.letters = ['\x27']) :
    (parted apart parts).flatMap letters = ['\x27'].intercalate parts := by
  induction parts with
  | nil => rfl
  | cons p parts ih =>
    cases parts with
    | nil => simp [parted, letters]
    | cons q parts =>
      rw [List.intercalate_cons_cons, ← ih]
      simp only [parted, List.map_cons, List.intersperse_cons_cons, List.flatMap_cons, quote]
      rw [List.append_assoc]
      rfl

theorem forall_parted {P : Segment → Prop} (between : P apart)
    (h : ∀ p ∈ parts, P (.single p)) : ∀ x ∈ parted apart parts, P x := by
  induction parts with
  | nil => nofun
  | cons p parts ih =>
    obtain ⟨first, others⟩ := List.forall_mem_cons.mp h
    cases parts with
    | nil => exact List.forall_mem_singleton.mpr first
    | cons q parts =>
      rw [parted, List.map_cons, List.map_cons, List.intersperse_cons_cons]
      exact List.forall_mem_cons.mpr ⟨first, List.forall_mem_cons.mpr ⟨between, ih others⟩⟩

/-- A text cut at its single quotes is read back as one word, and this stands for the text. -/
theorem parted_read_back (plain : apart.Plain) (quoted : apart.isQuoted = true)
    (quote : apart.letters = ['\x27']) (s : String) :
    ∃ w : Word, Reader.IsWord ('\x27' :: (('\x27' :: (apart.text ++ ['\x27'])).intercalate
        (s.toList.splitOnP (· = '\x27')) ++ ['\x27'])) w true ∧
      ∀ capture, Expansion.fields capture w = pure [s] ∧
        Expansion.assigned capture w = pure s := by
  obtain ⟨parts, cut⟩ : ∃ parts, s.toList.splitOnP (· = '\x27') = parts := ⟨_, rfl⟩
  have nonempty : parts ≠ [] := cut ▸ List.splitOnP_ne_nil _ _
  have marked : ∀ x ∈ parted apart parts, x.isQuoted = true :=
    forall_parted (P := fun x => x.isQuoted = true) quoted fun _ _ => rfl
  have calm : ∀ x ∈ parted apart parts, x.Plain := by
    refine forall_parted plain fun p known inside => ?_
    rw [← cut] at known
    exact absurd (not_of_mem_splitOnP known _ inside) (by decide)
  have tame : ∀ x ∈ parted apart parts, x.Tame := by
    intro x known
    cases x with
    | bare c => cases marked _ known
    | _ => trivial
  have letters : String.ofList ((parted apart parts).flatMap letters) = s := by
    have whole : ['\x27'].intercalate parts = s.toList :=
      cut ▸ List.intercalate_splitOn '\x27'
    rw [letters_parted quote, whole, String.ofList_toList]
  have filled : parted apart parts ≠ [] := parted_ne_nil nonempty
  have front : (parted apart parts).head? ≠ some (.bare '~') :=
    fun same => by cases marked _ (List.mem_of_mem_head? same)
  have some : (parted apart parts).any isQuoted = true := by
    obtain ⟨x, inside⟩ := List.exists_mem_of_ne_nil _ filled
    exact List.any_eq_true.mpr ⟨x, inside, marked x inside⟩
  refine ⟨(parted apart parts).flatMap word, ?_, fun capture => ⟨?_, ?_⟩⟩
  · rw [cut, ← text_parted nonempty, ← some]
    exact Reader.isWord_row calm
  · rw [fields_row capture filled tame front, letters]
  · rw [assigned_row capture marked, letters]

end Segment

/-- A quoted text is read back as one word, in whatever place, and this stands for the text. -/
theorem Builtin.quoted_read_back (s : String) : ∃ w : Word,
    Reader.IsWord (quoted s).toList w true ∧
      ∀ capture, Expansion.fields capture w = pure [s] ∧
        Expansion.assigned capture w = pure s := by
  have plain : (Segment.double ['\x27']).Plain := List.forall_mem_singleton.mpr (by decide)
  rw [quoted, String.toList_ofList]
  exact Segment.parted_read_back plain rfl rfl s

end SupervisedShell.Script
