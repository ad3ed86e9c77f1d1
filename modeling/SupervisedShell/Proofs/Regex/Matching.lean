import Mathlib.Data.List.Pairwise
import SupervisedShell.Regex.Matching
/-!
What a regular expression matches, and that looking from a whole set of places at once finds exactly
that. A repetition ends in time because its steps never lead back: those that stay where they are
can be left out.
-/

set_option autoImplicit false

namespace SupervisedShell.Regex

def Steps (R : Nat → Nat → Prop) : Nat → Nat → Nat → Prop
  | 0, i, j => i = j
  | n + 1, i, j => ∃ k, R i k ∧ Steps R n k j

def Spans (t : Array Char) : Regex → Nat → Nat → Prop
  | .empty, i, j => i = j
  | .literal cs, i, j => cs <+: t.toList.drop i ∧ j = i + cs.length
  | .set cs, i, j => (∃ c, t[i]? = some c ∧ cs.contains c = true) ∧ j = i + 1
  | .look l, i, j => l.holds t i = true ∧ j = i
  | .concat a b, i, j => ∃ k, Spans t a i k ∧ Spans t b k j
  | .either a b, i, j => Spans t a i j ∨ Spans t b i j
  | .repeated a least most? _, i, j =>
    ∃ more, (∀ most ∈ most?, more ≤ most - least) ∧ Steps (Spans t a) (least + more) i j
  | .group _ a, i, j => Spans t a i j

namespace Steps

variable {R : Nat → Nat → Prop} {m n i j : Nat}

theorem add_iff : Steps R (m + n) i j ↔ ∃ k, Steps R m i k ∧ Steps R n k j := by
  induction m generalizing i with
  | zero => simp [Steps]
  | succ m ih =>
    rw [Nat.succ_add]
    simp only [Steps, ih]
    constructor
    · rintro ⟨k, first, l, before, behind⟩
      exact ⟨l, ⟨k, first, before⟩, behind⟩
    · rintro ⟨l, ⟨k, first, before⟩, behind⟩
      exact ⟨k, first, l, before, behind⟩

theorem le (forward : ∀ i j, R i j → i ≤ j) (steps : Steps R n i j) : i ≤ j := by
  induction n generalizing i with
  | zero => exact Nat.le_of_eq steps
  | succ n ih =>
    obtain ⟨k, first, rest⟩ := steps
    exact Nat.le_trans (forward i k first) (ih rest)

/-- Steps that stay where they are can be left out. -/
theorem shorten (forward : ∀ i j, R i j → i ≤ j) (steps : Steps R n i j) :
    ∃ m ≤ n, m ≤ j - i ∧ Steps R m i j := by
  induction n generalizing i with
  | zero => exact ⟨0, Nat.le_refl 0, Nat.zero_le _, steps⟩
  | succ n ih =>
    obtain ⟨k, first, rest⟩ := steps
    obtain ⟨m, fewer, short, steps⟩ := ih rest
    by_cases stays : i = k
    · subst stays
      exact ⟨m, Nat.le_succ_of_le fewer, short, steps⟩
    · have onward : i ≤ k := forward i k first
      have further : k ≤ j := rest.le forward
      exact ⟨m + 1, by omega, by omega, k, first, steps⟩

end Steps

theorem Spans.le {t : Array Char} {r : Regex} {i j : Nat} (spans : Spans t r i j) : i ≤ j := by
  induction r generalizing i j with
  | empty => exact Nat.le_of_eq spans
  | literal cs => exact spans.2 ▸ Nat.le_add_right i cs.length
  | set cs => exact spans.2 ▸ Nat.le_succ i
  | look l => exact Nat.le_of_eq spans.2.symm
  | concat a b first second =>
    obtain ⟨k, before, behind⟩ := spans
    exact Nat.le_trans (first before) (second behind)
  | either a b first second => exact spans.elim first second
  | repeated a least most? greedy ih =>
    obtain ⟨more, -, steps⟩ := spans
    exact steps.le fun _ _ => ih
  | group number a ih => exact ih spans

/-- Places of a text, the first one first. -/
structure Places (size : Nat) (s : List Nat) : Prop where
  rising : s.Pairwise (· < ·)
  within : ∀ i ∈ s, i ≤ size

theorem lt_of_rising {a b : Nat} {t : List Nat} (rising : (b :: t).Pairwise (· < ·))
    (less : a < b) :
    ∀ j ∈ b :: t, a < j := by
  obtain ⟨below, -⟩ := List.pairwise_cons.mp rising
  exact List.forall_mem_cons.mpr ⟨less, fun j known => Nat.lt_trans less (below j known)⟩

theorem mem_join (s t : List Nat) (j : Nat) : j ∈ join s t ↔ j ∈ s ∨ j ∈ t := by
  fun_induction join s t <;> grind

theorem rising_cons_join {a : Nat} {s t : List Nat} (first : ∀ j ∈ s, a < j)
    (second : ∀ j ∈ t, a < j)
    (rising : (join s t).Pairwise (· < ·)) : (a :: join s t).Pairwise (· < ·) := by
  refine List.pairwise_cons.mpr ⟨fun j known => ?_, rising⟩
  exact ((mem_join s t j).mp known).elim (first j) (second j)

theorem rising_join {s t : List Nat} (first : s.Pairwise (· < ·))
    (second : t.Pairwise (· < ·)) :
    (join s t).Pairwise (· < ·) := by
  fun_induction join s t with
  | case1 => exact second
  | case2 => exact first
  | case3 a s b t less ih =>
    obtain ⟨below, rest⟩ := List.pairwise_cons.mp first
    exact rising_cons_join below (lt_of_rising second less) (ih rest second)
  | case4 a s b t notLess more ih =>
    obtain ⟨below, rest⟩ := List.pairwise_cons.mp second
    exact rising_cons_join (lt_of_rising first more) below (ih first rest)
  | case5 a s b t notLess notMore ih =>
    obtain rfl : a = b := by omega
    obtain ⟨below, rest⟩ := List.pairwise_cons.mp first
    obtain ⟨below', rest'⟩ := List.pairwise_cons.mp second
    exact rising_cons_join below below' (ih rest rest')

theorem without_sublist (s t : List Nat) : (without s t).Sublist s := by
  fun_induction without s t with
  | case1 => exact .slnil
  | case2 => exact .refl _
  | case3 a s b t less ih => exact ih.cons_cons a
  | case4 a s b t notLess more ih => exact ih
  | case5 a s b t notLess notMore ih => exact ih.cons a

theorem mem_without {s t : List Nat} (first : s.Pairwise (· < ·))
    (second : t.Pairwise (· < ·)) (j : Nat) :
    j ∈ without s t ↔ j ∈ s ∧ j ∉ t := by
  fun_induction without s t with
  | case1 => simp
  | case2 => simp
  | case3 a s b t less ih =>
    have kept : a ∉ b :: t := fun known => Nat.lt_irrefl a (lt_of_rising second less a known)
    rw [List.mem_cons, ih first.of_cons second]
    grind
  | case4 a s b t notLess more ih =>
    have passed : b ∉ a :: s := fun known => Nat.lt_irrefl b (lt_of_rising first more b known)
    rw [ih first second.of_cons]
    grind
  | case5 a s b t notLess notMore ih =>
    obtain rfl : a = b := by omega
    have gone : a ∉ s := fun known => Nat.lt_irrefl a ((List.pairwise_cons.mp first).1 a known)
    rw [ih first.of_cons second.of_cons]
    grind

namespace Places

variable {size : Nat} {s t : List Nat}

theorem sublist (smaller : t.Sublist s) (places : Places size s) : Places size t :=
  ⟨places.rising.sublist smaller, fun i known => places.within i (smaller.subset known)⟩

theorem join (first : Places size s) (second : Places size t) : Places size (join s t) := by
  refine ⟨rising_join first.rising second.rising, fun i known => ?_⟩
  exact ((mem_join s t i).mp known).elim (first.within i) (second.within i)

theorem singleton {i : Nat} (within : i ≤ size) : Places size [i] :=
  ⟨List.pairwise_singleton _ _, by simpa using within⟩

theorem range (size : Nat) : Places size (List.range (size + 1)) :=
  ⟨List.pairwise_lt_range, fun _ known => Nat.le_of_lt_succ (List.mem_range.mp known)⟩

end Places

/-- A function on sets of places finds exactly where one can go from a place of the set. -/
structure Finds (size : Nat) (step : List Nat → List Nat) (R : Nat → Nat → Prop) : Prop where
  places {s : List Nat} : Places size s → Places size (step s)
  mem_iff {s : List Nat} : Places size s → ∀ j, j ∈ step s ↔ ∃ i ∈ s, R i j

namespace Finds

variable {size : Nat} {step behind : List Nat → List Nat} {R S : Nat → Nat → Prop}

theorem within (finds : Finds size step R) {i j : Nat} (start : i ≤ size) (leads : R i j) :
    j ≤ size := by
  have alone := Places.singleton start
  exact (finds.places alone).within j
    ((finds.mem_iff alone j).mpr ⟨i, List.mem_singleton_self i, leads⟩)

theorem comp (first : Finds size step R) (second : Finds size behind S) :
    Finds size (fun s => behind (step s)) fun i j => ∃ k, R i k ∧ S k j := by
  refine ⟨fun known => second.places (first.places known), fun known j => ?_⟩
  simp only [second.mem_iff (first.places known), first.mem_iff known]
  constructor
  · rintro ⟨k, ⟨i, start, before⟩, after⟩
    exact ⟨i, start, k, before, after⟩
  · rintro ⟨i, start, k, before, after⟩
    exact ⟨k, ⟨i, start, before⟩, after⟩

theorem join (first : Finds size step R) (second : Finds size behind S) :
    Finds size (fun s => join (step s) (behind s)) fun i j => R i j ∨ S i j := by
  refine ⟨fun known => (first.places known).join (second.places known), fun known j => ?_⟩
  simp only [mem_join, first.mem_iff known, second.mem_iff known, and_or_left, exists_or]

theorem congr (finds : Finds size step R) (same : ∀ i ≤ size, ∀ j, R i j ↔ S i j) :
    Finds size step S := by
  refine ⟨finds.places, fun {s} known j => ?_⟩
  have same : (∃ i ∈ s, R i j) ↔ ∃ i ∈ s, S i j :=
    exists_congr fun i => and_congr_right fun start => same i (known.within i start) j
  exact (finds.mem_iff known j).trans same

/-- Each place that is fit leads on by the same number of characters. -/
theorem shift {fit : Nat → Bool} {d : Nat}
    (room : ∀ i ≤ size, fit i = true → i + d ≤ size) :
    Finds size (List.filterMap fun i => if fit i then some (i + d) else none) fun i j => fit i =
      true ∧ j = i + d := by
  have mem (s : List Nat) (j : Nat) : j ∈
      s.filterMap (fun i => if fit i then some (i + d) else none) ↔
      ∃ i ∈ s, fit i = true ∧ j = i + d := by
    simp only [List.mem_filterMap, Option.ite_none_right_eq_some, Option.some.injEq,
      eq_comm (b := j)]
  refine ⟨fun known => ⟨?_, fun j found => ?_⟩, fun _ => mem _⟩
  · refine known.rising.filterMap _ fun _ _ less _ found _ found' => ?_
    grind
  · obtain ⟨i, start, fits, rfl⟩ := (mem _ _).mp found
    exact room i (known.within i start) fits

theorem filter (fit : Nat → Bool) :
    Finds size (List.filter fit) fun i j => fit i = true ∧ j = i := by
  refine ⟨fun known => known.sublist List.filter_sublist, fun known j => ?_⟩
  rw [List.mem_filter]
  exact ⟨fun ⟨start, fits⟩ => ⟨j, start, fits, rfl⟩,
    fun ⟨_, start, fits, same⟩ => same ▸ ⟨start, fits⟩⟩

theorem iterate (finds : Finds size step R) (n : Nat) :
    Finds size (iterate step n) (Steps R n) := by
  induction n with
  | zero => exact ⟨fun known => known, fun known j => by simp [Regex.iterate, Steps]⟩
  | succ n ih =>
    have whole := finds.comp ih
    refine ⟨fun {s} known => ?_, fun {s} known j => ?_⟩
    · cases s with
      | nil => exact known
      | cons a s => exact whole.places known
    · cases s with
      | nil => simp [Regex.iterate]
      | cons a s => exact whole.mem_iff known j

end Finds

/-- On the way only places in front may lead to places that have not been seen. -/
structure Sweep (size : Nat) (R : Nat → Nat → Prop) (seen front : List Nat) : Prop where
  places : Places size seen
  fresh : Places size front
  inside : ∀ i ∈ front, i ∈ seen
  settled : ∀ i ∈ seen, i ∉ front → ∀ j, R i j → j ∈ seen

theorem Steps.mem_of_closed {R : Nat → Nat → Prop} {s : List Nat}
    (closed : ∀ i ∈ s, ∀ j, R i j → j ∈ s) {n i j : Nat}
    (steps : Steps R n i j) (start : i ∈ s) : j ∈ s := by
  induction n generalizing i with
  | zero => exact steps ▸ start
  | succ n ih =>
    obtain ⟨k, first, rest⟩ := steps
    exact ih rest (closed i start k first)

section
variable {size : Nat} {step : List Nat → List Nat} {R : Nat → Nat → Prop}
  {seen front : List Nat}

namespace Sweep

theorem all {s : List Nat} (known : Places size s) : Sweep size R s s :=
  ⟨known, known, fun _ => id, fun _ inside outside => absurd inside outside⟩

theorem mem_new (finds : Finds size step R) (sweep : Sweep size R seen front) (j : Nat) :
    j ∈ without (step front) seen ↔ (∃ i ∈ front, R i j) ∧ j ∉ seen := by
  rw [mem_without (finds.places sweep.fresh).rising sweep.places.rising, finds.mem_iff sweep.fresh]

theorem onward (finds : Finds size step R) (sweep : Sweep size R seen front) {i j : Nat}
    (start : i ∈ seen) (leads : R i j) : j ∈ join seen (without (step front) seen) := by
  rw [mem_join, sweep.mem_new finds]
  by_cases found : j ∈ seen
  · exact .inl found
  · have ahead : i ∈ front := by
      by_contra settled
      exact found (sweep.settled i start settled j leads)
    exact .inr ⟨⟨i, ahead, leads⟩, found⟩

theorem next (finds : Finds size step R) (sweep : Sweep size R seen front) :
    Sweep size R (join seen (without (step front) seen)) (without (step front) seen) := by
  have new := (finds.places sweep.fresh).sublist (without_sublist _ seen)
  refine ⟨sweep.places.join new, new, fun i known => (mem_join _ _ i).mpr (.inr known),
    fun i known old j leads => ?_⟩
  exact sweep.onward finds (((mem_join _ _ i).mp known).resolve_right old) leads

theorem gathered (finds : Finds size step R) (sweep : Sweep size R seen front) (n : Nat) :
    Places size (gather step n seen front) := by
  induction n generalizing seen front with
  | zero => exact sweep.places
  | succ n ih =>
    rw [gather]
    split
    · exact sweep.places
    · exact ih (sweep.next finds)

theorem mem_gather (finds : Finds size step R) (sweep : Sweep size R seen front) (n j : Nat) :
    j ∈ gather step n seen front ↔ ∃ i ∈ seen, ∃ m ≤ n, Steps R m i j := by
  -- A round takes in every first step from what is seen, so one step fewer is left behind it.
  induction n generalizing seen front with
  | zero => simp [gather, Steps]
  | succ n ih =>
    rw [gather]
    split
    · next none =>
      have closed : ∀ i ∈ seen, ∀ j, R i j → j ∈ seen := by
        intro i start j leads
        simpa [mem_join, List.isEmpty_iff.mp none] using sweep.onward finds start leads
      constructor
      · exact fun known => ⟨j, known, 0, Nat.zero_le _, rfl⟩
      · exact fun ⟨i, start, m, _, steps⟩ => steps.mem_of_closed closed start
    · rw [ih (sweep.next finds)]
      constructor
      · rintro ⟨i, known, m, few, steps⟩
        rcases (mem_join _ _ i).mp known with old | new
        · exact ⟨i, old, m, Nat.le_succ_of_le few, steps⟩
        · obtain ⟨⟨k, ahead, leads⟩, -⟩ := (sweep.mem_new finds i).mp new
          exact ⟨k, sweep.inside k ahead, m + 1, Nat.succ_le_succ few, i, leads, steps⟩
      · rintro ⟨i, start, m, few, steps⟩
        cases m with
        | zero => exact ⟨i, (mem_join _ _ i).mpr (.inl start), 0, Nat.zero_le n, steps⟩
        | succ m =>
          obtain ⟨k, leads, rest⟩ := steps
          exact ⟨k, sweep.onward finds start leads, m, Nat.le_of_succ_le_succ few, rest⟩

end Sweep

namespace Finds

theorem gather (finds : Finds size step R) (n : Nat) :
    Finds size (fun s => gather step n s s) fun i j => ∃ m ≤ n, Steps R m i j :=
  ⟨fun known => (Sweep.all known).gathered finds n,
    fun known j => (Sweep.all known).mem_gather finds n j⟩

/-- As many steps as the text has characters are enough behind the least number of them. -/
theorem repeated (finds : Finds size step R) (forward : ∀ i j, R i j → i ≤ j)
    {least most : Nat} {most? : Option Nat}
    (bound : ∀ m, m ≤ most ↔ m ≤ size + 1 ∧ ∀ most ∈ most?, m ≤ most - least) :
    Finds size (fun s => Regex.gather step most (Regex.iterate step least s)
      (Regex.iterate step least s)) fun i j =>
      ∃ more, (∀ most ∈ most?, more ≤ most - least) ∧ Steps R (least + more) i j := by
  refine ((finds.iterate least).comp (finds.gather most)).congr fun i start j => ?_
  constructor
  · rintro ⟨k, first, m, few, behind⟩
    exact ⟨m, ((bound m).mp few).2, Steps.add_iff.mpr ⟨k, first, behind⟩⟩
  · rintro ⟨m, few, steps⟩
    have inside : j ≤ size := (finds.iterate _).within start steps
    obtain ⟨k, first, behind⟩ := Steps.add_iff.mp steps
    obtain ⟨m', fewer, short, behind⟩ := behind.shorten forward
    refine ⟨k, first, m', (bound m').mpr ⟨by omega, fun most known => ?_⟩, behind⟩
    exact Nat.le_trans fewer (few most known)

end Finds

end

section
variable {t : Array Char}

theorem cons_prefix_drop_iff {i : Nat} {c : Char} {cs : List Char} :
    c :: cs <+: t.toList.drop i ↔ t[i]? = some c ∧ cs <+: t.toList.drop (i + 1) := by
  by_cases inside : i < t.size
  · have more : t.toList.drop i = t[i] :: t.toList.drop (i + 1) := List.drop_eq_getElem_cons inside
    rw [more, List.cons_prefix_cons, Array.getElem?_eq_getElem inside, Option.some.injEq, eq_comm]
  · have nothing : t.toList.drop i = [] := List.drop_eq_nil_iff.mpr (Nat.le_of_not_lt inside)
    have none : t[i]? = none := Array.getElem?_eq_none (Nat.le_of_not_lt inside)
    simp [nothing, none]

theorem standsAt_iff (i : Nat) (cs : List Char) :
    standsAt t i cs = true ↔ cs <+: t.toList.drop i := by
  induction cs generalizing i with
  | nil => simp [standsAt]
  | cons c cs ih => rw [standsAt, Bool.and_eq_true, ih, decide_eq_true_iff, cons_prefix_drop_iff]

theorem finds_ends (t : Array Char) (r : Regex) : Finds t.size (ends t r) (Spans t r) := by
  induction r with
  | empty => exact ⟨fun known => known, fun known j => by simp [ends, Spans]⟩
  | literal cs =>
    have room (i : Nat) (start : i ≤ t.size) (stands : standsAt t i cs = true) : i + cs.length ≤
        t.size := by
      have short : cs.length ≤ t.size - i := by
        simpa using ((standsAt_iff i cs).mp stands).length_le
      omega
    exact (Finds.shift room).congr fun i _ j => and_congr_left fun _ => standsAt_iff i cs
  | set cs =>
    have shape (i : Nat) : t[i]?.any cs.contains = true ↔
        ∃ c, t[i]? = some c ∧ cs.contains c = true := by
      rw [Option.any_eq_true]
    have room (i : Nat) (start : i ≤ t.size) (fit : t[i]?.any cs.contains = true) : i + 1 ≤
        t.size := by
      obtain ⟨c, known, -⟩ := (shape i).mp fit
      exact (Array.getElem?_eq_some_iff.mp known).1
    exact (Finds.shift room).congr fun i _ j => and_congr_left fun _ => shape i
  | look l => exact Finds.filter fun i => l.holds t i
  | concat a b first second => exact first.comp second
  | either a b first second => exact first.join second
  | repeated a least most? greedy ih =>
    refine ih.repeated (fun i j => Spans.le) fun m => ?_
    cases most? with
    | none => simp
    | some most =>
      simp only [Option.mem_some_iff, forall_eq']
      omega
  | group number a ih => exact ih

theorem steps_set_iff {cs : CharSet} {n i j : Nat} : Steps (Spans t (.set cs)) n i j ↔
    ∃ w, w <+: t.toList.drop i ∧ (∀ c ∈ w, cs.contains c = true) ∧ w.length = n ∧
      j = i + n := by
  induction n generalizing i with
  | zero =>
    simp only [Steps, List.length_eq_zero_iff]
    exact ⟨fun same => ⟨[], List.nil_prefix, by simp, rfl, same.symm⟩,
      fun ⟨_, _, _, _, same⟩ => same.symm⟩
  | succ n ih =>
    simp only [Steps, ih]
    constructor
    · rintro ⟨k, ⟨⟨c, known, fit⟩, rfl⟩, w, stands, fits, rfl, rfl⟩
      refine ⟨c :: w, cons_prefix_drop_iff.mpr ⟨known, stands⟩,
        List.forall_mem_cons.mpr ⟨fit, fits⟩, rfl, ?_⟩
      exact Nat.add_right_comm i 1 w.length
    · rintro ⟨w, stands, fits, count, rfl⟩
      obtain ⟨c, w, rfl⟩ := List.exists_cons_of_length_eq_add_one count
      obtain ⟨known, stands⟩ := cons_prefix_drop_iff.mp stands
      obtain ⟨fit, fits⟩ := List.forall_mem_cons.mp fits
      exact ⟨i + 1, ⟨⟨c, known, fit⟩, rfl⟩, w, stands, fits,
        Nat.succ.inj count, by omega⟩

/-- A class repeated spans each word of its characters that has a fit length. -/
theorem spans_repeated_set_iff {cs : CharSet} {least : Nat} {most? : Option Nat} {greedy : Bool}
    {i j : Nat} :
    Spans t (.repeated (.set cs) least most? greedy) i j ↔
      ∃ w, w <+: t.toList.drop i ∧ (∀ c ∈ w, cs.contains c = true) ∧
        least ≤ w.length ∧
        (∀ most ∈ most?, w.length - least ≤ most - least) ∧ j = i + w.length := by
  rw [Spans]
  simp only [steps_set_iff]
  constructor
  · rintro ⟨more, few, w, stands, fits, count, rfl⟩
    refine ⟨w, stands, fits, by omega, fun most known => ?_, by omega⟩
    have few := few most known
    omega
  · rintro ⟨w, stands, fits, many, few, rfl⟩
    exact ⟨w.length - least, few, w, stands, fits, by omega, by omega⟩

end

/-- A text has a match where the expression spans some places of it. -/
theorem isMatch_iff (r : Regex) (text : String) :
    isMatch r text = true ↔ ∃ i ≤ text.toList.length, ∃ j,
      Spans text.toList.toArray r i j := by
  have found := (finds_ends text.toList.toArray r).mem_iff (Places.range text.toList.length)
  rw [isMatch, Bool.not_eq_true', List.isEmpty_eq_false_iff_exists_mem]
  simp only [List.size_toArray, found, List.mem_range, Nat.lt_succ_iff]
  exact ⟨fun ⟨j, i, start, spans⟩ => ⟨i, start, j, spans⟩,
    fun ⟨i, start, j, spans⟩ => ⟨j, i, start, spans⟩⟩

theorem holds_start_iff {t : Array Char} {i : Nat} : Look.start.holds t i = true ↔ i = 0 :=
  decide_eq_true_iff

theorem holds_stop_iff {t : Array Char} {i : Nat} : Look.stop.holds t i = true ↔ i = t.size :=
  decide_eq_true_iff

/-- Between the two ends of the text each part takes up where the other one leaves off. -/
theorem isMatch_ends_iff (a b : Regex) (text : String) :
    isMatch (.concat (.look .start) (.concat a (.concat b (.look .stop)))) text = true ↔
      ∃ k, Spans text.toList.toArray a 0 k ∧
        Spans text.toList.toArray b k text.toList.length := by
  rw [isMatch_iff]
  constructor
  · rintro ⟨i, -, j, k, ⟨start, rfl⟩, l, first, m, second, stop, -⟩
    obtain rfl := holds_start_iff.mp start
    obtain rfl := holds_stop_iff.mp stop
    exact ⟨l, first, second⟩
  · rintro ⟨k, first, second⟩
    exact ⟨0, Nat.zero_le _, _, 0, ⟨holds_start_iff.mpr rfl, rfl⟩, k, first, _, second,
      holds_stop_iff.mpr rfl, rfl⟩

end SupervisedShell.Regex
