import SupervisedShell.Token

set_option autoImplicit false

namespace SupervisedShell

def Solid (w : List Char) : Prop := w ≠ [] ∧ ∀ c ∈ w, isSeparator c = false

theorem solid_of_all {w : List Char} (nonempty : w ≠ []) (all : w.all fun c => !isSeparator c) :
    Solid w :=
  ⟨nonempty, fun c known => by simpa using List.all_eq_true.mp all c known⟩

/-- What a list is cut at stays in none of its pieces. -/
theorem not_of_mem_splitOnP {α : Type} {p : α → Bool} {xs piece : List α}
    (known : piece ∈ xs.splitOnP p) :
    ∀ x ∈ piece, p x = false := by
  induction xs generalizing piece with
  | nil =>
    rw [List.splitOnP_nil, List.mem_singleton] at known
    simp [known]
  | cons x xs ih =>
    obtain ⟨first, others, split⟩ := List.exists_cons_of_ne_nil (List.splitOnP_ne_nil p xs)
    rw [List.splitOnP_cons_eq_if_modifyHead] at known
    cases cut : p x with
    | true =>
      rw [if_pos cut] at known
      rcases List.mem_cons.mp known with rfl | later
      · simp
      · exact ih later
    | false =>
      -- The entry joins the first piece of what follows it.
      rw [if_neg (by simp [cut]), split, List.modifyHead_cons] at known
      rcases List.mem_cons.mp known with rfl | later
      · have inside : first ∈ xs.splitOnP p := by simp [split]
        exact List.forall_mem_cons.mpr ⟨cut, ih inside⟩
      · exact ih (by simp [split, later])

theorem solid_of_mem_words {line w : List Char} (known : w ∈ words line) : Solid w := by
  obtain ⟨piece, nonempty⟩ := List.mem_filter.mp known
  exact ⟨by simpa using nonempty, not_of_mem_splitOnP piece⟩

theorem words_append_separator {c : Char} (separator : isSeparator c) (a b : List Char) :
    words (a ++ c :: b) = words a ++ words b := by
  rw [words, List.splitOnP_append_cons a b separator, List.filter_append]
  rfl

theorem words_of_solid {w : List Char} (solid : Solid w) : words w = [w] := by
  rw [words, List.splitOnP_eq_singleton solid.2]
  simp [solid.1]

theorem words_solid_append {w : List Char} {c : Char} (solid : Solid w) (separator : isSeparator c)
    (line : List Char) : words (w ++ c :: line) = w :: words line := by
  rw [words_append_separator separator, words_of_solid solid]
  rfl

theorem newline_not_mem_intercalate {ws : List (List Char)} (solid : ∀ w ∈ ws, Solid w) :
    '\n' ∉ [' '].intercalate ws := by
  have inside {w : List Char} (h : Solid w) : '\n' ∉ w :=
    fun known => absurd (h.2 _ known) (by decide)
  induction ws with
  | nil => simp
  | cons w ws ih =>
    obtain ⟨first, others⟩ := List.forall_mem_cons.mp solid
    cases ws with
    | nil => rw [List.intercalate_singleton]; exact inside first
    | cons v vs =>
      rw [List.intercalate_cons_cons, List.mem_append, List.mem_append]
      rintro ((known | known) | known)
      · exact inside first known
      · exact absurd known (by decide)
      · exact ih others known

theorem split_map {f : Char → Char} (spares : ∀ c, isSeparator (f c) = isSeparator c)
    (line : List Char) :
    (line.map f).splitOnP isSeparator = (line.splitOnP isSeparator).map (List.map f) := by
  induction line with
  | nil => simp
  | cons c line ih =>
    obtain ⟨first, others, split⟩ :=
      List.exists_cons_of_ne_nil (List.splitOnP_ne_nil isSeparator line)
    rw [List.map_cons, List.splitOnP_cons_eq_if_modifyHead, List.splitOnP_cons_eq_if_modifyHead,
      spares, ih, split]
    cases isSeparator c <;> simp

theorem words_map {f : Char → Char} (spares : ∀ c, isSeparator (f c) = isSeparator c)
    (line : List Char) :
    words (line.map f) = (words line).map (List.map f) := by
  have hollow : (fun w : List Char => !w.isEmpty) ∘ List.map f = fun w => !w.isEmpty := by
    funext w
    simp
  rw [words, split_map spares, List.filter_map, hollow]
  rfl

theorem tokenize_eq (line : String) : tokenize line = if (words line.toList).length ≤ 100 then
    .ok ⟨(words line.toList).map .ofList⟩ else .error (.tooMany 100) := by
  rw [tokenize, List.length_map]
  rfl

theorem tokenize_eq_ok_iff {line : String} {tokens : List String} :
    tokenize line = .ok ⟨tokens⟩ ↔
    (words line.toList).map String.ofList = tokens ∧ tokens.length ≤ ArgVector.limit := by
  unfold tokenize
  dsimp only
  split
  · next few =>
    rw [Except.ok.injEq, ArgVector.mk.injEq]
    exact ⟨fun same => ⟨same, same ▸ few⟩, And.left⟩
  · next many =>
    simp only [reduceCtorEq, false_iff]
    rintro ⟨rfl, few⟩
    exact many few

theorem tokenize_of_words {line name : String} {args : List String}
    (tokens : (words line.toList).map String.ofList = name :: args) (few : args.length < 100) :
    tokenize line = .ok ⟨name :: args⟩ :=
      tokenize_eq_ok_iff.mpr ⟨tokens, Nat.succ_le_of_lt few⟩

end SupervisedShell
