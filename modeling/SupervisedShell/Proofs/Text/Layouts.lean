import SupervisedShell.Proofs.Text.Runs
import SupervisedShell.Proofs.Text.Stepwise

set_option autoImplicit false

namespace SupervisedShell

def Blank (s : List Char) : Prop := ∀ c ∈ s, c ∈ blanks

instance (s : List Char) : Decidable (Blank s) := s.decidableBAll (· ∈ blanks)

/-- Words in a row, and a gap of blanks between each two of them. -/
inductive Spaced : List (List Char) → List Char → Prop where
  | none : Spaced [] []
  | one (w : List Char) : Spaced [w] w
  | more (w : List Char) {gap row v : List Char} {ws : List (List Char)} (blank : Blank gap)
      (parts : gap ≠ []) (others : Spaced (v :: ws) row) : Spaced (w :: v :: ws) (w ++ gap ++ row)

/-- A row of words with any blanks in front of it and behind it. -/
def LaidOut (ws : List (List Char)) (line : List Char) : Prop :=
  ∃ front row behind, Blank front ∧ Spaced ws row ∧ Blank behind ∧
    line = front ++ row ++ behind

theorem Blank.cons {b : Char} {s : List Char} (first : b ∈ blanks) (rest : Blank s) :
    Blank (b :: s) :=
  List.forall_mem_cons.mpr ⟨first, rest⟩

theorem Blank.append {s t : List Char} (left : Blank s) (right : Blank t) : Blank (s ++ t) :=
  List.forall_mem_append.mpr ⟨left, right⟩

theorem words_blank_append {front : List Char} (blank : Blank front) (line : List Char) :
    words (front ++ line) = words line := by
  induction front with
  | nil => rfl
  | cons b front ih =>
    obtain ⟨first, rest⟩ := List.forall_mem_cons.mp blank
    have parted := words_append_separator ((isSeparator_iff b).mpr first) [] (front ++ line)
    rw [List.nil_append, ih rest] at parted
    simpa [words] using parted

theorem words_blank {s : List Char} (blank : Blank s) : words s = [] := by
  have emptied := words_blank_append blank []
  rw [List.append_nil] at emptied
  rw [emptied]
  simp [words]

theorem words_append_blank {behind : List Char} (blank : Blank behind) (line : List Char) :
    words (line ++ behind) = words line := by
  cases behind with
  | nil => rw [List.append_nil]
  | cons b behind =>
    obtain ⟨first, rest⟩ := List.forall_mem_cons.mp blank
    rw [words_append_separator ((isSeparator_iff b).mpr first), words_blank rest, List.append_nil]

theorem Spaced.words_eq {ws : List (List Char)} {row : List Char} (h : Spaced ws row)
    (solid : ∀ w ∈ ws, Solid w) : words row = ws := by
  induction h with
  | none => simp [words]
  | one w => exact words_of_solid (solid w List.mem_cons_self)
  | @more w gap row v ws blank parts others ih =>
    obtain ⟨first, later⟩ := List.forall_mem_cons.mp solid
    obtain ⟨b, gap, rfl⟩ := List.exists_cons_of_ne_nil parts
    obtain ⟨start, rest⟩ := List.forall_mem_cons.mp blank
    rw [List.append_assoc, List.cons_append,
      words_solid_append first ((isSeparator_iff b).mpr start), words_blank_append rest, ih later]

theorem spaced_intercalate (ws : List (List Char)) : Spaced ws ([' '].intercalate ws) := by
  induction ws with
  | nil => exact .none
  | cons w ws ih =>
    cases ws with
    | nil => exact List.intercalate_singleton ▸ .one w
    | cons v ws =>
      rw [List.intercalate_cons_cons]
      exact .more w (by decide) (by simp) ih

theorem words_intercalate {ws : List (List Char)} (solid : ∀ w ∈ ws, Solid w) :
    words ([' '].intercalate ws) = ws :=
  (spaced_intercalate ws).words_eq solid

theorem Spaced.utf8Len_le {ws : List (List Char)} {row : List Char} (h : Spaced ws row) :
    String.utf8Len ([' '].intercalate ws) ≤ String.utf8Len row := by
  induction h with
  | none => simp
  | one w => simp
  | @more w gap row v ws blank parts others ih =>
    obtain ⟨b, gap, rfl⟩ := List.exists_cons_of_ne_nil parts
    have start := b.utf8Size_pos
    have space : ' '.utf8Size = 1 := rfl
    rw [List.intercalate_cons_cons]
    simp only [String.utf8Len_append, String.utf8Len_cons, String.utf8Len_nil, space]
    omega

theorem laidOut_words (line : List Char) : LaidOut (words line) line := by
  have nothing : Blank [] := by decide
  induction line using break_induction with
  | whole w unbroken =>
    rw [words_unbroken unbroken]
    by_cases empty : w = []
    · exact ⟨[], [], [], nothing, if_pos empty ▸ .none, nothing, by simp [empty]⟩
    · exact ⟨[], w, [], nothing, if_neg empty ▸ .one w, nothing, by simp⟩
  | broken w b rest unbroken blank ih =>
    obtain ⟨front, row, behind, before, spaced, after, split⟩ := ih
    rw [words_broken unbroken blank]
    by_cases empty : w = []
    · refine ⟨b :: front, row, behind, before.cons blank, ?_, after, by simp [empty, split]⟩
      simpa [empty] using spaced
    · -- The first word stands by itself, or a gap follows it and the words of the rest.
      rw [if_neg empty, List.singleton_append]
      cases others : words rest with
      | nil =>
        rw [others] at spaced
        cases spaced
        exact ⟨[], w, b :: front ++ behind, nothing, .one w,
          (before.cons blank).append after, by simp [split]⟩
      | cons v ws =>
        rw [others] at spaced
        exact ⟨[], w ++ (b :: front) ++ row, behind, nothing,
          .more w (before.cons blank) (by simp) spaced, after, by simp [split]⟩

theorem words_eq_iff {line : List Char} {ws : List (List Char)} :
    words line = ws ↔ (∀ w ∈ ws, Solid w) ∧ LaidOut ws line := by
  constructor
  · rintro rfl
    exact ⟨fun _ => solid_of_mem_words, laidOut_words line⟩
  · rintro ⟨solid, front, row, behind, before, spaced, after, rfl⟩
    rw [words_append_blank after, words_blank_append before, spaced.words_eq solid]

theorem LaidOut.utf8Len_le {ws : List (List Char)} {line : List Char} (h : LaidOut ws line) :
    String.utf8Len ([' '].intercalate ws) ≤ String.utf8Len line := by
  obtain ⟨front, row, behind, -, spaced, -, rfl⟩ := h
  have short := spaced.utf8Len_le
  simp only [String.utf8Len_append]
  omega

theorem laidOut_intercalate (ws : List (List Char)) : LaidOut ws ([' '].intercalate ws) :=
  ⟨[], _, [], by decide, spaced_intercalate ws, by decide, by simp⟩

theorem tokenize_eq_ok_iff_laidOut {line : String} {v : ArgVector} : tokenize line = .ok v ↔
    (∀ t ∈ v.tokens, Solid t.toList) ∧ v.size ≤ 100 ∧
      LaidOut (v.tokens.map String.toList) line.toList := by
  obtain ⟨tokens⟩ := v
  have same : (words line.toList).map String.ofList = tokens ↔
      words line.toList = tokens.map String.toList := by
    constructor
    · intro texts
      simp [← texts]
    · intro words
      simp [words]
  rw [tokenize_eq_ok_iff, same, words_eq_iff, List.forall_mem_map, and_assoc]
  exact and_congr_right fun _ => and_comm

theorem tokenize_parted (a b : String) {c : Char} (blank : c ∈ blanks) :
    tokenize (a ++ .singleton c ++ b) = match tokenize a, tokenize b with
      | .ok v, .ok w =>
        if v.size + w.size ≤ 100 then .ok ⟨v.tokens ++ w.tokens⟩ else .error (.tooMany 100)
      | _, _ => .error (.tooMany 100) := by
  have parted : words (a ++ .singleton c ++ b).toList = words a.toList ++ words b.toList := by
    rw [← words_append_separator ((isSeparator_iff c).mpr blank)]
    simp
  rw [tokenize_eq, tokenize_eq a, tokenize_eq b, parted, List.length_append]
  by_cases few : (words a.toList).length ≤ 100
  · by_cases few' : (words b.toList).length ≤ 100
    · rw [if_pos few, if_pos few']
      simp [ArgVector.size]
    · rw [if_pos few, if_neg few', if_neg (by omega)]
  · rw [if_neg few, if_neg (by omega)]

/-- With a blank between them two lines have the tokens of both, if both are accepted and one vector
holds them all, and are refused otherwise. An accepted line shares its vector with just the lines
that lay its tokens out; one of these has single spaces, and none is shorter. -/
theorem tokenize_by_layout :
    (∀ (a b : String) (c : Char), c ∈ blanks →
      tokenize (a ++ .singleton c ++ b) = match tokenize a, tokenize b with
        | .ok v, .ok w =>
          if v.size + w.size ≤ 100 then .ok ⟨v.tokens ++ w.tokens⟩ else .error (.tooMany 100)
        | _, _ => .error (.tooMany 100)) ∧
    ∀ (line : String) (v : ArgVector), tokenize line = .ok v →
      (∀ other, tokenize other = .ok v ↔ LaidOut (v.tokens.map String.toList) other.toList) ∧
        tokenize (" ".intercalate v.tokens) = .ok v ∧
        (" ".intercalate v.tokens).utf8ByteSize = Caesar.joinedSize v.tokens ∧
        Caesar.joinedSize v.tokens ≤ line.utf8ByteSize := by
  refine ⟨fun a b c blank => tokenize_parted a b blank, fun line v accepted => ?_⟩
  obtain ⟨solid, few, laid⟩ := tokenize_eq_ok_iff_laidOut.mp accepted
  have lines (other : String) : tokenize other = .ok v ↔
      LaidOut (v.tokens.map String.toList) other.toList := by
    rw [tokenize_eq_ok_iff_laidOut]
    exact ⟨fun h => h.2.2, fun h => ⟨solid, few, h⟩⟩
  have single : (" ".intercalate v.tokens).toList =
      [' '].intercalate (v.tokens.map String.toList) := by
    rw [String.toList_intercalate]
    rfl
  have size : (" ".intercalate v.tokens).utf8ByteSize = Caesar.joinedSize v.tokens := by
    rw [← Caesar.utf8Len_joined, ← String.utf8Len_toList, single, Caesar.joined]
  refine ⟨lines, (lines _).mpr (single ▸ laidOut_intercalate _), size, ?_⟩
  rw [← size, ← String.utf8Len_toList, ← String.utf8Len_toList, single]
  exact laid.utf8Len_le

/-- A vector as full as it can be, with a blank line behind it and with one more token behind it,
and two tokens laid out over lines of blanks of all kinds. -/
theorem tokenize_by_layout_at_limit :
    let full := String.ofList (List.replicate 100 ['x', '\t']).flatten
    '\x0b' ∈ blanks ∧ tokenize "\tfib \x0c 10\r\n" = .ok ⟨["fib", "10"]⟩ ∧
      tokenize (full ++ .singleton '\x0b' ++ "\n") = .ok ⟨List.replicate 100 "x"⟩ ∧
      tokenize (full ++ .singleton '\x0b' ++ "é") = .error (.tooMany 100) ∧
      tokenize " fib\x0b\n10" = .ok ⟨["fib", "10"]⟩ ∧
        tokenize "fib 10" = .ok ⟨["fib", "10"]⟩ ∧
      Caesar.joinedSize ["fib", "10"] = 6 := by
  have blank : '\x0b' ∈ blanks := by decide
  have accepted : tokenize "\tfib \x0c 10\r\n" = .ok ⟨["fib", "10"]⟩ := by cbv
  have full : tokenize (.ofList (List.replicate 100 ['x', '\t']).flatten) =
      .ok ⟨List.replicate 100 "x"⟩ := by
    have hundred : words (List.replicate 100 ['x', '\t']).flatten = List.replicate 100 ['x'] := by
      decide +kernel
    rw [tokenize_eq, String.toList_ofList, hundred, List.length_replicate, if_pos (Nat.le_refl 100),
      List.map_replicate]
  have empty : tokenize "\n" = .ok ⟨[]⟩ := by cbv
  have letter : tokenize "é" = .ok ⟨["é"]⟩ := by cbv
  obtain ⟨parted, layouts⟩ := tokenize_by_layout
  obtain ⟨lines, single, -⟩ := layouts _ _ accepted
  refine ⟨blank, accepted, ?_, ?_, (lines _).mpr ?_, single, by decide⟩
  · rw [parted _ _ _ blank, full, empty]
    simp [ArgVector.size]
  · rw [parted _ _ _ blank, full, letter]
    simp [ArgVector.size]
  · have gap : Blank "\x0b\n".toList := by decide
    have spaced := Spaced.more "fib".toList gap (by decide) (.one "10".toList)
    exact ⟨[' '], _, [], by decide, spaced, by decide, rfl⟩

end SupervisedShell
