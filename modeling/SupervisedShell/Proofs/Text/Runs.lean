import Mathlib.Data.List.Sort
import SupervisedShell.Proofs.Text.Tokens
/-!
Tokens as places in the line. A run of the line has no blank in it and cannot be made longer at
either end; the tokens are the texts of all its runs, from left to right. Behind the run that finds
the vector full, nothing that follows changes the refusal.
-/

set_option autoImplicit false

namespace SupervisedShell

def blanks : List Char := [' ', '\t', '\r', '\n', '\x0b', '\x0c']

theorem isSeparator_iff (c : Char) : isSeparator c = true ↔ c ∈ blanks := by
  simp [isSeparator, blanks, or_assoc]

theorem isSeparator_eq_false_iff (c : Char) : isSeparator c = false ↔ c ∉ blanks := by
  rw [← isSeparator_iff, Bool.not_eq_true]

def Unbroken (w : List Char) : Prop := ∀ c ∈ w, c ∉ blanks

theorem solid_iff (w : List Char) : Solid w ↔ w ≠ [] ∧ Unbroken w := by
  simp only [Solid, Unbroken, isSeparator_eq_false_iff]

/-- A line is unbroken, or it breaks at its first blank. -/
theorem break_induction {P : List Char → Prop} (whole : ∀ w, Unbroken w → P w)
    (broken : ∀ w b rest, Unbroken w → b ∈ blanks → P rest → P (w ++ b :: rest))
    (line : List Char) :
    P line := by
  have grown (w : List Char) (unbroken : Unbroken w) : P (w ++ line) := by
    induction line generalizing w with
    | nil =>
      rw [List.append_nil]
      exact whole w unbroken
    | cons c line ih =>
      by_cases blank : c ∈ blanks
      · exact broken w c line unbroken blank (ih [] (by simp [Unbroken]))
      · have longer : Unbroken (w ++ [c]) := by
          intro d known
          rcases List.mem_append.mp known with inside | last
          · exact unbroken d inside
          · rwa [List.mem_singleton.mp last]
        rw [List.append_cons]
        exact ih (w ++ [c]) longer
  exact grown [] (by simp [Unbroken])

theorem words_unbroken {w : List Char} (unbroken : Unbroken w) :
    words w = if w = [] then [] else [w] := by
  by_cases empty : w = []
  · simp [empty, words]
  · rw [if_neg empty, words_of_solid ((solid_iff w).mpr ⟨empty, unbroken⟩)]

theorem words_broken {w rest : List Char} {b : Char} (unbroken : Unbroken w)
    (blank : b ∈ blanks) :
    words (w ++ b :: rest) = (if w = [] then [] else [w]) ++ words rest := by
  rw [words_append_separator ((isSeparator_iff b).mpr blank), words_unbroken unbroken]

/-- A piece of a line between what stands before it and behind it. -/
structure Run where
  before : List Char
  text : List Char
  behind : List Char

namespace Run

structure Maximal (line : List Char) (r : Run) : Prop where
  split : line = r.before ++ r.text ++ r.behind
  nonempty : r.text ≠ []
  unbroken : Unbroken r.text
  front : ∀ c ∈ r.before.getLast?, c ∈ blanks
  back : ∀ c ∈ r.behind.head?, c ∈ blanks

def after (front : List Char) (r : Run) : Run := { r with before := front ++ r.before }

section
variable {w rest : List Char} {b : Char} {r : Run}

theorem maximal_unbroken_iff (unbroken : Unbroken w) :
    r.Maximal w ↔ w ≠ [] ∧ r = ⟨[], w, []⟩ := by
  obtain ⟨before, text, behind⟩ := r
  constructor
  · rintro ⟨rfl, nonempty, -, front, back⟩
    have noFront : before = [] := by
      by_contra some
      have last := List.getLast?_eq_some_getLast some
      exact unbroken _ (by simp) (front _ last)
    have noBack : behind = [] := by
      by_contra some
      obtain ⟨c, behind, rfl⟩ := List.exists_cons_of_ne_nil some
      exact unbroken c (by simp) (back c rfl)
    subst noFront noBack
    simpa using nonempty
  · rintro ⟨nonempty, same⟩
    obtain ⟨rfl, rfl, rfl⟩ := Run.mk.inj same
    exact ⟨by simp, nonempty, unbroken, by simp, by simp⟩

/-- What is before a run ends with a blank, and so it does not end within the first piece
of the line. -/
theorem Maximal.before_cases (unbroken : Unbroken w) (h : r.Maximal (w ++ b :: rest)) :
    r.before = [] ∨ ∃ more, r.before = w ++ b :: more ∧
      rest = more ++ r.text ++ r.behind := by
  have split := h.split
  rw [List.append_assoc] at split
  have notWithin (c : Char) (last : c ∈ r.before.getLast?) : c ∉ w := fun inside =>
    unbroken c inside (h.front c last)
  rcases List.append_eq_append_iff.mp split with ⟨more, before, later⟩ | ⟨more, within, -⟩
  · cases more with
    | nil =>
      rw [List.append_nil] at before
      rcases List.eq_nil_or_concat' w with rfl | ⟨front', c, rfl⟩
      · exact .inl before
      · exact absurd (by simp) (notWithin c (by simp [before]))
    | cons c more =>
      obtain ⟨rfl, rest⟩ := List.cons.inj later
      exact .inr ⟨more, before, by rwa [List.append_assoc]⟩
  · rcases List.eq_nil_or_concat' r.before with empty | ⟨front', c, before⟩
    · exact .inl empty
    · exact absurd (by simp [within, before]) (notWithin c (by simp [before]))

/-- A run at the start of the line stops at the first blank, neither behind it nor in front of a
character that it might take. -/
theorem first_piece {text behind : List Char} (unbroken : Unbroken w) (blank : b ∈ blanks)
    (split : w ++ b :: rest = text ++ behind) (solid : Unbroken text)
    (back : ∀ c ∈ behind.head?, c ∈ blanks) :
    text = w ∧ behind = b :: rest := by
  rcases List.append_eq_append_iff.mp split with ⟨more, rfl, later⟩ | ⟨more, rfl, rfl⟩
  · cases more with
    | nil => exact ⟨List.append_nil w, later.symm⟩
    | cons c more =>
      obtain ⟨rfl, -⟩ := List.cons.inj later
      exact absurd blank (solid b (by simp))
  · cases more with
    | nil => exact ⟨(List.append_nil text).symm, rfl⟩
    | cons c more => exact absurd (back c rfl) (unbroken c (by simp))

theorem mem_getLast?_broken {c : Char} {more : List Char} :
    c ∈ (w ++ b :: more).getLast? ↔ c ∈ more.getLast? ∨ more = [] ∧ b = c := by
  cases more with
  | nil => simp
  | cons d more => simp [List.getLast?_append]

theorem maximal_broken_iff (unbroken : Unbroken w) (blank : b ∈ blanks) :
    r.Maximal (w ++ b :: rest) ↔
    (w ≠ [] ∧ r = ⟨[], w, b :: rest⟩) ∨
      ∃ s : Run, s.Maximal rest ∧ r = s.after (w ++ [b]) := by
  constructor
  · intro h
    rcases h.before_cases unbroken with start | ⟨more, before, split⟩
    · have split := h.split
      rw [start, List.nil_append] at split
      obtain ⟨text, behind⟩ := first_piece unbroken blank split h.unbroken h.back
      refine .inl ⟨text ▸ h.nonempty, ?_⟩
      rw [← start, ← text, ← behind]
    · have front (c : Char) (last : c ∈ more.getLast?) : c ∈ blanks :=
        h.front c (before ▸ mem_getLast?_broken.mpr (.inl last))
      refine .inr ⟨⟨more, r.text, r.behind⟩,
        ⟨split, h.nonempty, h.unbroken, front, h.back⟩, ?_⟩
      rw [after, List.append_assoc, List.singleton_append, ← before]
  · rintro (⟨nonempty, rfl⟩ | ⟨s, h, rfl⟩)
    · exact ⟨rfl, nonempty, unbroken, by simp, by simpa using blank⟩
    · refine ⟨by simp [after, h.split], h.nonempty, h.unbroken, ?_, h.back⟩
      intro c last
      simp only [after, List.append_assoc, List.singleton_append, mem_getLast?_broken] at last
      rcases last with last | ⟨-, rfl⟩
      · exact h.front c last
      · exact blank

end

end Run

/-- All the runs of a line, from left to right. -/
structure Runs (line : List Char) (runs : List Run) : Prop where
  mem_iff : ∀ r, r ∈ runs ↔ r.Maximal line
  ordered : runs.Pairwise fun r s => r.before.length < s.before.length

theorem Runs.unique {line : List Char} {runs others : List Run} (h : Runs line runs)
    (h' : Runs line others) :
    runs = others := by
  have irrefl : Std.Irrefl fun r s : Run => r.before.length < s.before.length :=
    ⟨fun r => Nat.lt_irrefl _⟩
  have antisymm : Std.Antisymm fun r s : Run => r.before.length < s.before.length :=
    ⟨fun r s less more => absurd less (Nat.lt_asymm more)⟩
  exact h.ordered.eq_of_mem_iff h'.ordered fun r => (h.mem_iff r).trans (h'.mem_iff r).symm

theorem runs_unbroken {w : List Char} (unbroken : Unbroken w) :
    Runs w (if w = [] then [] else [⟨[], w, []⟩]) := by
  by_cases empty : w = []
  · rw [if_pos empty]
    refine ⟨fun r => ?_, .nil⟩
    rw [Run.maximal_unbroken_iff unbroken]
    simp [empty]
  · rw [if_neg empty]
    refine ⟨fun r => ?_, List.pairwise_singleton _ _⟩
    simp [Run.maximal_unbroken_iff unbroken, empty]

theorem runs_broken {w rest : List Char} {b : Char} {runs : List Run} (unbroken : Unbroken w)
    (blank : b ∈ blanks) (h : Runs rest runs) : Runs (w ++ b :: rest)
      ((if w = [] then [] else [⟨[], w, b :: rest⟩]) ++ runs.map (Run.after (w ++ [b]))) := by
  refine ⟨fun r => ?_, ?_⟩
  · rw [Run.maximal_broken_iff unbroken blank, List.mem_append, List.mem_map]
    by_cases empty : w = []
    · simp [empty, h.mem_iff, eq_comm]
    · simp [empty, h.mem_iff, eq_comm]
  · have later : (runs.map (Run.after (w ++ [b]))).Pairwise fun r s => r.before.length <
        s.before.length := by
      rw [List.pairwise_map]
      refine h.ordered.imp fun less => ?_
      simpa [Run.after] using less
    refine List.pairwise_append.mpr ⟨by split <;> simp, later, ?_⟩
    intro r first s behind
    obtain ⟨t, -, rfl⟩ := List.mem_map.mp behind
    have start : r.before = [] := by
      by_cases empty : w = []
      · simp [empty] at first
      · rw [if_neg empty, List.mem_singleton] at first
        rw [first]
    simp only [start, Run.after, List.length_append, List.length_nil, List.length_singleton]
    omega

theorem runs_words (line : List Char) :
    ∃ runs, Runs line runs ∧ runs.map Run.text = words line := by
  induction line using break_induction with
  | whole w unbroken =>
    refine ⟨_, runs_unbroken unbroken, ?_⟩
    rw [words_unbroken unbroken]
    split <;> rfl
  | broken w b rest unbroken blank ih =>
    obtain ⟨runs, h, texts⟩ := ih
    refine ⟨_, runs_broken unbroken blank h, ?_⟩
    have same : Run.text ∘ Run.after (w ++ [b]) = Run.text := rfl
    rw [words_broken unbroken blank, List.map_append, List.map_map, same, texts]
    split <;> rfl

theorem Unbroken.filter_eq {w : List Char} (unbroken : Unbroken w) :
    w.filter (fun c => c ∉ blanks) = w := by
  rw [List.filter_eq_self]
  intro c known
  simpa using unbroken c known

theorem flatten_words (line : List Char) :
    (words line).flatten = line.filter fun c => c ∉ blanks := by
  induction line using break_induction with
  | whole w unbroken =>
    rw [words_unbroken unbroken, unbroken.filter_eq]
    by_cases empty : w = [] <;> simp [empty]
  | broken w b rest unbroken blank ih =>
    rw [words_broken unbroken blank, List.flatten_append, ih, List.filter_append,
      unbroken.filter_eq, List.filter_cons_of_neg (by simpa using blank)]
    by_cases empty : w = [] <;> simp [empty]

/-- What follows a line may lengthen its last word, and takes none away. -/
theorem length_words_le_append (line more : List Char) :
    (words line).length ≤ (words (line ++ more)).length := by
  induction line using break_induction with
  | whole w unbroken =>
    rw [words_unbroken unbroken]
    cases w with
    | nil => exact Nat.zero_le _
    | cons c w =>
      have kept : c ∈ (words (c :: w ++ more)).flatten := by
        rw [flatten_words]
        simpa using unbroken c List.mem_cons_self
      obtain ⟨word, known, -⟩ := List.mem_flatten.mp kept
      exact List.length_pos_of_mem known
  | broken w b rest unbroken blank ih =>
    rw [List.append_assoc, List.cons_append, words_broken unbroken blank,
      words_broken unbroken blank, List.length_append, List.length_append]
    exact Nat.add_le_add_left ih _

/-- Takes the pieces of a line one by one, and stops at the first word that finds the
vector full. -/
def collect (taken : List String) : List (List Char) → Except TokenError ArgVector
  | [] => .ok ⟨taken⟩
  | piece :: pieces =>
    if piece.isEmpty then collect taken pieces
    else if taken.length = ArgVector.limit then .error (.tooMany ArgVector.limit)
    else collect (taken ++ [.ofList piece]) pieces

theorem collect_eq (pieces : List (List Char)) {taken tokens : List String}
    (room : taken.length ≤ ArgVector.limit)
    (all : tokens = taken ++ (pieces.filter fun w => !w.isEmpty).map String.ofList) :
    collect taken pieces =
      if tokens.length ≤ ArgVector.limit then .ok ⟨tokens⟩
        else .error (.tooMany ArgVector.limit) := by
  induction pieces generalizing taken with
  | nil =>
    rw [List.filter_nil, List.map_nil, List.append_nil] at all
    rw [collect, all, if_pos room]
  | cons piece pieces ih =>
    cases empty : piece.isEmpty with
    | true =>
      rw [List.filter_cons_of_neg (by simp [empty])] at all
      rw [collect, if_pos empty, ih room all]
    | false =>
      rw [List.filter_cons_of_pos (by simp [empty]), List.map_cons, List.append_cons] at all
      have count : taken.length + 1 ≤ tokens.length := by simp [all]
      rw [collect, empty, if_neg Bool.false_ne_true]
      by_cases full : taken.length = ArgVector.limit
      · rw [if_pos full, if_neg (by omega)]
      · have one : (taken ++ [String.ofList piece]).length ≤ ArgVector.limit := by
          rw [List.length_append, List.length_singleton]
          omega
        rw [if_neg full, ih one all]

theorem tokenize_eq_collect (line : String) :
    tokenize line = collect [] (line.toList.splitOnP isSeparator) := by
  rw [collect_eq _ (Nat.zero_le _) rfl]
  rfl

theorem tokenize_of_many {line : String} (many : 100 < (words line.toList).length) (more : String) :
    tokenize (line ++ more) = .error (.tooMany 100) := by
  have grown := length_words_le_append line.toList more.toList
  rw [tokenize_eq, String.toList_append, if_neg (by omega)]

/-- A line has one list of runs. With 100 of them at most they are its tokens, and with more of them
it is refused as a whole, whatever is put behind it. -/
theorem tokenize_runs (line : String) :
    ∃ runs, Runs line.toList runs ∧ (∀ others, Runs line.toList others → others = runs) ∧
      let texts := runs.map fun r => String.ofList r.text
      (texts.length ≤ 100 → ∃ v, tokenize line = .ok v ∧ v.tokens = texts ∧
        v.size = texts.length ∧
        v.isEmpty = texts.isEmpty ∧ v.command? = texts.head? ∧ v.args = texts.tail) ∧
      (100 < texts.length → ∀ more, tokenize (line ++ more) = .error (.tooMany 100)) ∧
      (∀ t ∈ texts, t ≠ "" ∧ ∀ c ∈ t.toList, c ∉ blanks) ∧
      texts.flatMap String.toList = (line.toList.filter fun c => c ∉ blanks) ∧
      tokenize line = collect [] (line.toList.splitOnP isSeparator) := by
  obtain ⟨runs, all, texts⟩ := runs_words line.toList
  refine ⟨runs, all, fun others h => h.unique all, ?_⟩
  have same : (runs.map fun r => String.ofList r.text) = (words line.toList).map String.ofList := by
    rw [← texts, List.map_map]
    rfl
  rw [same]
  refine ⟨?_, ?_, ?_, ?_, tokenize_eq_collect line⟩
  · intro few
    exact ⟨_, tokenize_eq_ok_iff.mpr ⟨rfl, few⟩, rfl, rfl, rfl, rfl, rfl⟩
  · intro many
    rw [List.length_map] at many
    exact tokenize_of_many many
  · intro t known
    obtain ⟨w, inside, rfl⟩ := List.mem_map.mp known
    obtain ⟨nonempty, unbroken⟩ := (solid_iff w).mp (solid_of_mem_words inside)
    refine ⟨?_, ?_⟩
    · rw [← String.toList_eq_nil_iff.ne, String.toList_ofList]
      exact nonempty
    · rwa [String.toList_ofList]
  · rw [← flatten_words, List.flatMap_map]
    simp [List.flatMap_id']

/-- Neither the character of number 0 nor a blank beyond ASCII parts tokens. -/
example : tokenize " \ta\x00b\u00a0c\x0c\u3000\r\n" = .ok ⟨["a\x00b\u00a0c", "\u3000"]⟩ := by
  cbv

end SupervisedShell
