import Mathlib.Data.List.Induction
import Mathlib.Data.List.TakeWhile
import SupervisedShell.Script.Pattern
/-!
What patterns stand for. A matcher goes through a text once, with all places of the pattern that it
may have come to.
-/

set_option autoImplicit false

namespace SupervisedShell.Script.Glob

/-- A star stands for any text, and each other element for one character. -/
inductive Stands : List Glob → List Char → Prop where
  | nil : Stands [] []
  | one {g : Glob} {c : Char} {p : List Glob} {t : List Char} (single : g ≠ star)
      (fit : g.fits c) (rest : Stands p t) : Stands (g :: p) (c :: t)
  | skip {p : List Glob} {t : List Char} (rest : Stands p t) : Stands (star :: p) t
  | more {p : List Glob} {t : List Char} (c : Char) (rest : Stands (star :: p) t) :
    Stands (star :: p) (c :: t)

variable {g : Glob} {p q : List Glob} {c : Char} {t u : List Char} {bs : List Bool}

theorem stands_nil_iff : Stands [] t ↔ t = [] := by
  constructor
  · rintro ⟨⟩
    rfl
  · rintro rfl
    exact .nil

theorem not_stands_nil (single : g ≠ star) : ¬ Stands (g :: p) [] := by
  intro h
  cases h with
  | skip => exact single rfl

theorem stands_cons_iff (single : g ≠ star) :
    Stands (g :: p) (c :: t) ↔ g.fits c ∧ Stands p t := by
  constructor
  · intro h
    cases h with
    | one _ fit rest => exact ⟨fit, rest⟩
    | skip | more => exact absurd rfl single
  · rintro ⟨fit, rest⟩
    exact .one single fit rest

theorem stands_star_cons_iff :
    Stands (star :: p) (c :: t) ↔ Stands p (c :: t) ∨ Stands (star :: p) t := by
  constructor
  · intro h
    cases h with
    | one single => exact absurd rfl single
    | skip rest => exact .inl rest
    | more _ rest => exact .inr rest
  · rintro (rest | rest)
    · exact .skip rest
    · exact .more c rest

theorem stands_star_nil_iff : Stands (star :: p) [] ↔ Stands p [] := by
  constructor
  · intro h
    cases h with
    | skip rest => exact rest
  · exact .skip

theorem stands_star_iff :
    Stands (star :: p) t ↔ ∃ front back, t = front ++ back ∧ Stands p back := by
  constructor
  · intro h
    induction t with
    | nil => exact ⟨[], [], rfl, stands_star_nil_iff.mp h⟩
    | cons c t ih =>
      rcases stands_star_cons_iff.mp h with rest | rest
      · exact ⟨[], c :: t, rfl, rest⟩
      · obtain ⟨front, back, rfl, behind⟩ := ih rest
        exact ⟨c :: front, back, rfl, behind⟩
  · rintro ⟨front, back, rfl, rest⟩
    induction front with
    | nil => exact .skip rest
    | cons c front ih => exact .more c ih

theorem stands_append_iff :
    Stands (p ++ q) t ↔
      ∃ front back, t = front ++ back ∧ Stands p front ∧ Stands q back := by
  induction p generalizing t with
  | nil => simp [stands_nil_iff]
  | cons g p ih =>
    by_cases single : g = star
    · subst single
      simp only [List.cons_append, stands_star_iff, ih]
      constructor
      · rintro ⟨passed, -, rfl, front, back, rfl, first, rest⟩
        exact ⟨passed ++ front, back, by simp, ⟨passed, front, rfl, first⟩, rest⟩
      · rintro ⟨-, back, rfl, ⟨passed, front, rfl, first⟩, rest⟩
        exact ⟨passed, front ++ back, by simp, front, back, rfl, first, rest⟩
    · cases t with
      | nil =>
        simp [not_stands_nil single]
      | cons c t =>
        rw [List.cons_append, stands_cons_iff single, ih]
        constructor
        · rintro ⟨fit, front, back, rfl, first, rest⟩
          exact ⟨c :: front, back, rfl, .one single fit first, rest⟩
        · rintro ⟨front, back, split, first, rest⟩
          cases first with
          | one _ fit first =>
            cases split
            exact ⟨fit, _, back, rfl, first, rest⟩
          | skip | more => exact absurd rfl single

theorem stands_singleton_reverse (h : Stands [g] t) : Stands [g] t.reverse := by
  by_cases single : g = star
  · subst single
    exact stands_star_iff.mpr ⟨t.reverse, [], by simp, .nil⟩
  · cases h with
    | one _ fit rest =>
      obtain rfl := stands_nil_iff.mp rest
      exact .one single fit .nil
    | skip | more => exact absurd rfl single

theorem Stands.reverse (h : Stands p t) : Stands p.reverse t.reverse := by
  induction p generalizing t with
  | nil =>
    obtain rfl := stands_nil_iff.mp h
    exact .nil
  | cons g p ih =>
    obtain ⟨front, back, rfl, first, rest⟩ := (stands_append_iff (p := [g])).mp h
    rw [List.reverse_cons, List.reverse_append]
    exact stands_append_iff.mpr ⟨_, _, rfl, ih rest, stands_singleton_reverse first⟩

theorem stands_reverse_iff : Stands p.reverse t.reverse ↔ Stands p t :=
  ⟨fun h => by simpa using h.reverse, .reverse⟩

/-- The places of a pattern, each with whether it was come to. With a star the place behind it is
come to as well. -/
inductive Places : List Glob → List Bool → Prop where
  | last (b : Bool) : Places [] [b]
  | one {g : Glob} {p : List Glob} {bs : List Bool} (single : g ≠ star) (b : Bool)
      (rest : Places p bs) : Places (g :: p) (b :: bs)
  | star {p : List Glob} {b : Bool} {bs : List Bool} (through : b → bs.head? = some true)
      (rest : Places p bs) : Places (star :: p) (b :: bs)

theorem start_single (single : g ≠ star) (b : Bool) :
    start b (g :: p) = b :: start false p := by
  cases g <;> first | rfl | exact absurd rfl single

theorem step_single (single : g ≠ star) (r b : Bool) :
    step c r (g :: p) (b :: bs) = r :: step c (b && g.fits c) p bs := by
  cases g <;> first | rfl | exact absurd rfl single

theorem head?_start (p : List Glob) : (start true p).head? = some true := by
  cases p with
  | nil => rfl
  | cons g p => cases g <;> rfl

theorem places_start (b : Bool) (p : List Glob) : Places p (start b p) := by
  induction p generalizing b with
  | nil => exact .last b
  | cons g p ih =>
    by_cases single : g = star
    · subst single
      exact .star (fun reached => reached ▸ head?_start p) (ih b)
    · rw [start_single single]
      exact .one single b (ih false)

theorem head?_step (h : Places p bs) : (step c true p bs).head? = some true := by
  cases h with
  | last => rfl
  | one single => rw [step_single single]; rfl
  | star => rfl

theorem Places.step (h : Places p bs) (c : Char) (r : Bool) : Places p (Glob.step c r p bs) := by
  induction h generalizing r with
  | last b => exact .last r
  | one single b rest ih =>
    rw [step_single single]
    exact .one single r (ih _)
  | @star p b bs through rest ih =>
    refine .star (fun reached => ?_) (ih (r || b))
    rw [reached]
    exact head?_step rest

/-- From a place that was come to, the pattern stands for the text. -/
def Goes (t : List Char) : List Glob → List Bool → Prop
  | _, [] => False
  | p, b :: bs => b ∧ Stands p t ∨ Goes t p.tail bs

theorem goes_of_head (first : bs.head? = some true) (h : Stands p t) : Goes t p bs := by
  obtain ⟨bs, rfl⟩ := List.head?_eq_some_iff.mp first
  exact .inl ⟨rfl, h⟩

theorem goes_start {b : Bool} : Goes t p (start b p) ↔ b ∧ Stands p t := by
  induction p generalizing b with
  | nil => simp [start, Goes]
  | cons g p ih =>
    by_cases single : g = star
    · subst single
      simp only [start, Goes, List.tail_cons, ih]
      exact ⟨fun h => h.elim id fun ⟨reached, rest⟩ => ⟨reached, .skip rest⟩, .inl⟩
    · rw [start_single single]
      simp [Goes, ih]

theorem goes_step (h : Places p bs) {r : Bool} :
    Goes t p (step c r p bs) ↔ r ∧ Stands p t ∨ Goes (c :: t) p bs := by
  induction h generalizing r with
  | last b => simp [Glob.step, Goes, stands_nil_iff]
  | one single b rest ih =>
    rw [step_single single]
    simp [Goes, ih, stands_cons_iff single, and_assoc]
  | @star p b bs through rest ih =>
    have passed : b → Stands p (c :: t) → Goes (c :: t) p bs :=
      fun reached => goes_of_head (through reached)
    simp only [Glob.step, Goes, List.tail_cons, ih, stands_star_cons_iff, Bool.or_eq_true]
    have skipped : Stands p t → Stands (Glob.star :: p) t := .skip
    tauto

theorem goes_nil_iff (h : Places p bs) : Goes [] p bs ↔ isThrough bs := by
  induction h with
  | last b => simp [Goes, isThrough, stands_nil_iff]
  | one single b rest ih =>
    simp only [Goes, not_stands_nil single, and_false, false_or, List.tail_cons, ih]
    cases rest <;> rfl
  | @star p b bs through rest ih =>
    have passed : b → Stands p [] → Goes [] p bs :=
      fun reached => goes_of_head (through reached)
    simp only [Goes, stands_star_nil_iff, List.tail_cons]
    rw [or_iff_right_of_imp fun ⟨reached, stands⟩ => passed reached stands, ih]
    cases rest <;> rfl

theorem isThrough_foldl (h : Places p bs) :
    isThrough (t.foldl (fun bs c => step c false p bs) bs) ↔ Goes t p bs := by
  induction t generalizing bs with
  | nil => exact (goes_nil_iff h).symm
  | cons c t ih => simp [ih (h.step c false), goes_step h]

theorem isMatch_iff : isMatch p t ↔ Stands p t := by
  simp [isMatch, isThrough_foldl (places_start true p), goes_start]

/-- The lengths of the fronts that a pattern stands for, the longest first. -/
def fronts (p : List Glob) (t : List Char) : List Nat :=
  ((List.range (t.length + 1)).filter fun n => isMatch p (t.take n)).reverse

theorem mem_fronts_iff {n : Nat} : n ∈ fronts p t ↔ n ≤ t.length ∧ Stands p (t.take n) := by
  rw [fronts, List.mem_reverse, List.mem_filter, List.mem_range, Nat.lt_succ_iff, isMatch_iff]

theorem length_mem_fronts {front : List Char} (first : front <+: t) (stands : Stands p front) :
    front.length ∈ fronts p t :=
  mem_fronts_iff.mpr ⟨first.length_le, List.prefix_iff_eq_take.mp first ▸ stands⟩

theorem fronts_falling (p : List Glob) (t : List Char) : (fronts p t).Pairwise (· > ·) :=
  List.pairwise_reverse.mpr ((List.pairwise_lt_range).filter _)

theorem fronts_append (p : List Glob) (t : List Char) (c : Char) :
    fronts p (t ++ [c]) =
      if isMatch p (t ++ [c]) then (t.length + 1) :: fronts p t else fronts p t := by
  have old : (List.range (t.length + 1)).filter (fun n => isMatch p ((t ++ [c]).take n)) =
      (List.range (t.length + 1)).filter fun n => isMatch p (t.take n) :=
    List.filter_congr fun n known => by
      rw [List.take_append_of_le_length (Nat.le_of_lt_succ (List.mem_range.mp known))]
  have last : (t ++ [c]).take (t.length + 1) = t ++ [c] := List.take_of_length_le (by simp)
  rw [fronts, List.length_append, List.length_singleton, List.range_succ, List.filter_append, old,
    List.reverse_append, List.filter_cons, last]
  split <;> rfl

theorem foldl_goOn (p : List Glob) (plain : divider ∉ t) :
    t.foldl (goOn p) (0, start true p, note 0 (start true p) []) =
      (t.length, t.foldl (fun bs c => step c false p bs) (start true p), fronts p t) := by
  induction t using List.reverseRecOn with
  | nil =>
    simp only [List.foldl_nil, fronts, note, isMatch]
    split <;> simp [*]
  | append_singleton t c ih =>
    obtain ⟨before, apart⟩ : divider ∉ t ∧ divider ≠ c := by simpa using plain
    rw [List.foldl_append, ih before, fronts_append]
    simp [goOn, apart.symm, isMatch, note]

theorem ends_eq (p : List Glob) (plain : divider ∉ t) : ends p t = fronts p t :=
  congrArg (·.2.2) (foldl_goOn p plain)

/-- The length of the front of a text that is taken for the pattern. -/
def chosen (p : List Glob) (longest : Bool) (t : List Char) : Option Nat :=
  if longest then (fronts p t).head? else (fronts p t).getLast?

theorem chosen_eq_none {longest : Bool} (none : chosen p longest t = none) :
    ¬ ∃ front, front <+: t ∧ Stands p front := by
  have empty : fronts p t = [] := by
    cases longest <;> simpa [chosen] using none
  rintro ⟨front, first, stands⟩
  have known := length_mem_fronts first stands
  simp [empty] at known

theorem chosen_eq_some {longest : Bool} {n : Nat} (choice : chosen p longest t = some n) :
    (n ≤ t.length ∧ Stands p (t.take n)) ∧ ∀ front, front <+: t → Stands p front →
      if longest then front.length ≤ n else n ≤ front.length := by
  have falling := fronts_falling p t
  cases longest with
  | false =>
    obtain ⟨longer, all⟩ := List.getLast?_eq_some_iff.mp choice
    refine ⟨mem_fronts_iff.mp (by simp [all]), fun front first stands => ?_⟩
    rw [all, List.pairwise_append] at falling
    have known := length_mem_fronts first stands
    rw [all, List.mem_append, List.mem_singleton] at known
    exact known.elim (fun other => Nat.le_of_lt (falling.2.2 _ other n (by simp)))
      fun same => Nat.le_of_eq same.symm
  | true =>
    obtain ⟨shorter, all⟩ := List.head?_eq_some_iff.mp choice
    refine ⟨mem_fronts_iff.mp (by simp [all]), fun front first stands => ?_⟩
    rw [all, List.pairwise_cons] at falling
    have known := length_mem_fronts first stands
    rw [all, List.mem_cons] at known
    exact known.elim Nat.le_of_eq fun other => Nat.le_of_lt (falling.1 _ other)

theorem firstValue_eq (plain : divider ∉ t) : firstValue t = t :=
  List.takeWhile_eq_self_iff.mpr fun c known => by
    simpa using fun same : c = divider => plain (same ▸ known)

theorem withoutPrefix_eq (p : List Glob) (longest : Bool) (plain : divider ∉ t) :
    withoutPrefix p longest t = ((chosen p longest t).map t.drop).getD t := by
  cases longest with
  | false =>
    simp only [withoutPrefix, firstValue_eq plain, ends_eq p plain, chosen]
    cases (fronts p t).getLast? <;> rfl
  | true =>
    simp only [withoutPrefix, firstValue_eq plain, ends_eq p plain, chosen]
    cases (fronts p t).head? with
    | none => rfl
    | some n =>
      by_cases whole : n = t.length
      · simp [whole]
      · simp [whole]

theorem withoutSuffix_eq (p : List Glob) (longest : Bool) (plain : divider ∉ t) :
    withoutSuffix p longest t =
      ((chosen p.reverse longest t.reverse).map fun n => t.take (t.length - n)).getD t := by
  have plain' : divider ∉ t.reverse := by simpa using plain
  cases longest with
  | false =>
    simp only [withoutSuffix, ends_eq _ plain', chosen]
    cases (fronts p.reverse t.reverse).getLast? <;> rfl
  | true =>
    simp only [withoutSuffix, firstValue_eq plain, ends_eq _ plain', chosen]
    cases (fronts p.reverse t.reverse).head? <;> rfl

/-- From one value the shortest or longest front is taken that the pattern stands for. -/
theorem withoutPrefix_spec (p : List Glob) (longest : Bool) (plain : divider ∉ t) :
    (withoutPrefix p longest t = t ∧ ¬ ∃ front, front <+: t ∧ Stands p front) ∨
      ∃ front, front ++ withoutPrefix p longest t = t ∧ Stands p front ∧
        ∀ other, other <+: t → Stands p other →
          if longest then other.length ≤ front.length else front.length ≤ other.length := by
  rw [withoutPrefix_eq p longest plain]
  cases found : chosen p longest t with
  | none => exact .inl ⟨rfl, chosen_eq_none found⟩
  | some n =>
    obtain ⟨⟨fits, stands⟩, best⟩ := chosen_eq_some found
    refine .inr ⟨t.take n, List.take_append_drop n t, stands, ?_⟩
    rwa [List.length_take_of_le fits]

/-- From one value the shortest or longest end is taken that the pattern stands for. -/
theorem withoutSuffix_spec (p : List Glob) (longest : Bool) (plain : divider ∉ t) :
    (withoutSuffix p longest t = t ∧ ¬ ∃ back, back <:+ t ∧ Stands p back) ∨
      ∃ back, withoutSuffix p longest t ++ back = t ∧ Stands p back ∧
        ∀ other, other <:+ t → Stands p other →
          if longest then other.length ≤ back.length else back.length ≤ other.length := by
  rw [withoutSuffix_eq p longest plain]
  cases found : chosen p.reverse longest t.reverse with
  | none =>
    refine .inl ⟨rfl, fun ⟨back, last, stands⟩ => chosen_eq_none found ?_⟩
    exact ⟨back.reverse, List.reverse_prefix.mpr last, stands.reverse⟩
  | some n =>
    obtain ⟨⟨fits, stands⟩, best⟩ := chosen_eq_some found
    rw [List.length_reverse] at fits
    refine .inr ⟨t.drop (t.length - n), List.take_append_drop _ t, ?_, ?_⟩
    · rw [List.take_reverse] at stands
      exact stands_reverse_iff.mp stands
    · intro other last stands
      have better := best other.reverse (List.reverse_prefix.mpr last) stands.reverse
      have size : (t.drop (t.length - n)).length = n := by simp; omega
      rwa [List.length_reverse, ← size] at better

theorem ofChars_plain {n : Nat} {rest : List Char} (plain : c ∉ meaningful) :
    ofChars (n + 1) (c :: rest) = char c :: ofChars n rest := by
  simp only [meaningful, List.mem_cons, not_or] at plain
  rw [ofChars.eq_def]
  split <;> simp_all

theorem written_cons (s : List Char) :
    written ((c :: s).map (·, true)) =
      (if c ∈ meaningful then ['\\', c] else [c]) ++ written (s.map (·, true)) := by
  simp [written]

theorem ofChars_written {n : Nat} (s : List Char)
    (enough : (written (s.map (·, true))).length ≤ n) :
    ofChars n (written (s.map (·, true))) = s.map char := by
  induction s generalizing n with
  | nil => cases n <;> rfl
  | cons c s ih =>
    rw [written_cons] at enough ⊢
    cases n with
    | zero => split at enough <;> simp at enough
    | succ n =>
      split at enough
      · next special =>
        rw [if_pos special]
        exact congrArg (char c :: ·) (ih (by simp at enough; omega))
      · next plain =>
        rw [if_neg plain, List.singleton_append, ofChars_plain plain]
        exact congrArg (char c :: ·) (ih (by simpa using enough))

theorem stands_chars_iff {s : List Char} : Stands (s.map char) t ↔ t = s := by
  induction s generalizing t with
  | nil => exact stands_nil_iff
  | cons d s ih =>
    cases t with
    | nil => simp [not_stands_nil]
    | cons c t => simp [stands_cons_iff, fits, ih]

/-- A word in quotes stands for itself and nothing else. -/
theorem isMatch_quoted_iff (s : List Char) : isMatch (ofWord (s.map (·, true))) t ↔ t = s := by
  rw [isMatch_iff, ofWord, ofChars_written s (Nat.le_refl _), stands_chars_iff]

end SupervisedShell.Script.Glob
