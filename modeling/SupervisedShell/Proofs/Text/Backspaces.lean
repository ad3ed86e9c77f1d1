import Mathlib.Data.List.Basic
import Mathlib.Data.String.Basic
import SupervisedShell.Text.Cluster
/-!
What is left of a typed text. A text is the row of its clusters, and backspaces work on that row as
on a stack.
-/

set_option autoImplicit false

namespace SupervisedShell.Text

open String (utf8Len)

theorem flatten_clustersFrom (b : Boundary) (held s : List Char) :
    (clustersFrom b held s).flatten = held.reverse ++ s := by
  induction s generalizing b held with
  | nil => simp [clustersFrom]
  | cons c s ih =>
    rw [clustersFrom]
    split <;> simp [ih]

theorem flatten_clusters (s : List Char) : (clusters s).flatten = s := by
  cases s with
  | nil => rfl
  | cons c s => exact flatten_clustersFrom (.start c) [c] s

def backspace : List Char := ['\x08']

/-- A backspace takes the cluster on top away, and is not one itself. -/
def press (stack : List (List Char)) (cluster : List Char) : List (List Char) :=
  if cluster = backspace then stack.tail else cluster :: stack

namespace Typed

/-- What is typed are the clusters of a stack. -/
structure Holds (t : Typed) (stack : List (List Char)) : Prop where
  text : t.text = (stack.map List.reverse).flatten
  sizes : t.sizes = stack.map utf8Len

theorem dropBytes_append (front rest : List Char) :
    dropBytes (utf8Len front) (front ++ rest) = rest := by
  induction front with
  | nil => simp [dropBytes]
  | cons c front ih =>
    obtain ⟨n, more⟩ : ∃ n, utf8Len (c :: front) = n + 1 := by
      refine Nat.exists_eq_add_one_of_ne_zero (Nat.ne_of_gt ?_)
      exact Nat.add_pos_right _ c.utf8Size_pos
    rw [more, List.cons_append, dropBytes, ← more, String.utf8Len_cons, Nat.add_sub_cancel, ih]

theorem foldl_utf8Size (cluster : List Char) (n : Nat) :
    (cluster.map Char.utf8Size).foldl (· + ·) n = n + utf8Len cluster := by
  induction cluster generalizing n with
  | nil => rfl
  | cons c cluster ih =>
    rw [List.map_cons, List.foldl_cons, ih, String.utf8Len_cons]
    omega

theorem sizeOf_eq {cluster : List Char} (small : utf8Len cluster < 256) :
    sizeOf cluster = utf8Len cluster := by
  rw [sizeOf, foldl_utf8Size, Nat.zero_add, Nat.mod_eq_of_lt small]

theorem type_other {t : Typed} {cluster : List Char} (other : cluster ≠ backspace) :
    t.type cluster = ⟨cluster.reverse ++ t.text, sizeOf cluster :: t.sizes⟩ := if_neg other

theorem Holds.type {t : Typed} {stack : List (List Char)} (h : t.Holds stack)
    {cluster : List Char} (small : utf8Len cluster < 256) :
    (t.type cluster).Holds (press stack cluster) := by
  obtain ⟨text, sizes⟩ := t
  obtain ⟨rfl, rfl⟩ := h
  by_cases back : cluster = backspace
  · subst back
    cases stack with
    | nil => exact ⟨rfl, rfl⟩
    | cons top stack =>
      refine ⟨?_, rfl⟩
      change dropBytes (utf8Len top) (top.reverse ++ (stack.map List.reverse).flatten) = _
      rw [← String.utf8Len_reverse, dropBytes_append]
      rfl
  · rw [type_other back, press, if_neg back]
    exact ⟨rfl, by rw [sizeOf_eq small]; rfl⟩

theorem Holds.foldl {cs : List (List Char)} (small : ∀ c ∈ cs, utf8Len c < 256) {t : Typed}
    {stack : List (List Char)} (h : t.Holds stack) :
    (cs.foldl Typed.type t).Holds (cs.foldl press stack) := by
  induction cs generalizing t stack with
  | nil => exact h
  | cons c cs ih =>
    rw [List.forall_mem_cons] at small
    exact ih small.2 (h.type small.1)

theorem text_foldl {cs : List (List Char)} (plain : backspace ∉ cs) (t : Typed) :
    (cs.foldl Typed.type t).text = cs.flatten.reverse ++ t.text := by
  induction cs generalizing t with
  | nil => rfl
  | cons c cs ih =>
    rw [List.mem_cons, not_or] at plain
    rw [List.foldl_cons, ih plain.2, type_other (Ne.symm plain.1)]
    simp

end Typed

/-- Backspaces take whole clusters away, if these take no more room than is kept of their size. -/
theorem withoutBackspaces_eq (s : String) (small : ∀ c ∈ clusters s.toList, utf8Len c < 256) :
    withoutBackspaces s =
      String.ofList ((clusters s.toList).foldl press []).reverse.flatten := by
  have held : Typed.empty.Holds [] := ⟨rfl, rfl⟩
  rw [withoutBackspaces, (held.foldl small).text, List.reverse_flatten]
  simp

theorem withoutBackspaces_of_plain {s : String} (plain : '\x08' ∉ s.toList) :
    withoutBackspaces s = s := by
  have apart : backspace ∉ clusters s.toList := fun known =>
    plain (flatten_clusters s.toList ▸
      List.mem_flatten.mpr ⟨_, known, List.mem_singleton_self _⟩)
  rw [withoutBackspaces, Typed.text_foldl apart, flatten_clusters]
  simp [Typed.empty]

end SupervisedShell.Text
