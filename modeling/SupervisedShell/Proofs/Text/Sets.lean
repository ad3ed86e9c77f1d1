import Mathlib.Data.List.Basic
import SupervisedShell.Text.CharSet
/-!
Sets of characters have the members that their operations promise, and two of them are equal if they
have the same members.
-/

set_option autoImplicit false

namespace SupervisedShell.CharSet

def Covers (rs : List (Nat × Nat)) (n : Nat) : Prop := ∃ r ∈ rs, r.1 ≤ n ∧ n ≤ r.2

theorem holds_iff (s : CharSet) (n : Nat) : s.holds n ↔ Covers s.ranges n := by
  simp [holds, Covers]

/-- A range reaches from one character to another. -/
structure Proper (r : Nat × Nat) : Prop where
  le : r.1 ≤ r.2
  low : r.1.isValidChar
  high : r.2.isValidChar

/-- Ranges in rising order that neither overlap nor touch. -/
structure Canonical (rs : List (Nat × Nat)) : Prop where
  proper : ∀ r ∈ rs, Proper r
  apart : rs.Pairwise fun a b => a.2 + 1 < b.1

variable {rs ss : List (Nat × Nat)} {r : Nat × Nat} {n : Nat}

@[simp] theorem covers_nil : ¬ Covers [] n := by simp [Covers]

@[simp] theorem covers_cons : Covers (r :: rs) n ↔ (r.1 ≤ n ∧ n ≤ r.2) ∨ Covers rs n := by
  simp [Covers]

theorem Covers.here (low : r.1 ≤ n) (high : n ≤ r.2) : Covers (r :: rs) n :=
  covers_cons.mpr (.inl ⟨low, high⟩)

theorem Covers.later (h : Covers rs n) : Covers (r :: rs) n := covers_cons.mpr (.inr h)

theorem Canonical.tail (h : Canonical (r :: rs)) : Canonical rs :=
  ⟨fun q known => h.proper q (List.mem_cons_of_mem r known), (List.pairwise_cons.mp h.apart).2⟩

theorem Canonical.cons (proper : Proper r) (h : Canonical rs)
    (apart : ∀ q ∈ rs, r.2 + 1 < q.1) : Canonical (r :: rs) :=
  ⟨List.forall_mem_cons.mpr ⟨proper, h.proper⟩, List.pairwise_cons.mpr ⟨apart, h.apart⟩⟩

namespace Canonical

theorem behind (h : Canonical (r :: rs)) (covers : Covers rs n) : r.2 + 1 < n := by
  obtain ⟨q, known, low, -⟩ := covers
  exact Nat.lt_of_lt_of_le ((List.pairwise_cons.mp h.apart).1 q known) low

theorem first_le (h : Canonical (r :: rs)) (covers : Covers (r :: rs) n) : r.1 ≤ n := by
  have le := (h.proper r List.mem_cons_self).le
  rcases covers_cons.mp covers with ⟨low, -⟩ | covers
  · exact low
  · have := h.behind covers
    omega

/-- What is covered from the first range on without a gap is covered by that range. -/
theorem le_last (h : Canonical (r :: rs)) {q : Nat × Nat} (start : q.1 = r.1)
    (all : ∀ n, q.1 ≤ n → n ≤ q.2 → Covers (r :: rs) n) : q.2 ≤ r.2 := by
  by_contra further
  have le := (h.proper r List.mem_cons_self).le
  rcases covers_cons.mp (all (r.2 + 1) (by omega) (by omega)) with ⟨-, within⟩ | covers
  · omega
  · have := h.behind covers
    omega

/-- Ranges that cover the same are the same. -/
theorem unique (h : Canonical rs) (h' : Canonical ss) (same : ∀ n, Covers rs n ↔ Covers ss n) :
    rs = ss := by
  induction rs generalizing ss with
  | nil =>
    cases ss with
    | nil => rfl
    | cons q ss =>
      have le := (h'.proper q List.mem_cons_self).le
      exact absurd ((same q.1).mpr (.here (Nat.le_refl _) le)) covers_nil
  | cons r rs ih =>
    have le := (h.proper r List.mem_cons_self).le
    cases ss with
    | nil => exact absurd ((same r.1).mp (.here (Nat.le_refl _) le)) covers_nil
    | cons q ss =>
      have le' := (h'.proper q List.mem_cons_self).le
      have start : r.1 = q.1 := Nat.le_antisymm
        (h.first_le ((same q.1).mpr (.here (Nat.le_refl _) le')))
        (h'.first_le ((same r.1).mp (.here (Nat.le_refl _) le)))
      have stop : r.2 = q.2 := Nat.le_antisymm
        (h'.le_last start fun n low high => (same n).mp (.here low high))
        (h.le_last start.symm fun n low high => (same n).mpr (.here low high))
      obtain rfl : r = q := Prod.ext start stop
      refine congrArg (r :: ·) (ih h.tail h'.tail fun n => ?_)
      constructor
      · intro covers
        have := h.behind covers
        exact (covers_cons.mp ((same n).mp covers.later)).resolve_left
          (by omega)
      · intro covers
        have := h'.behind covers
        exact (covers_cons.mp ((same n).mpr covers.later)).resolve_left
          (by omega)

end Canonical

theorem valid_max {a b : Nat} (first : a.isValidChar) (second : b.isValidChar) :
    (max a b).isValidChar := by
  rcases Nat.le_total a b with le | le
  · rwa [Nat.max_eq_right le]
  · rwa [Nat.max_eq_left le]

theorem valid_min {a b : Nat} (first : a.isValidChar) (second : b.isValidChar) :
    (min a b).isValidChar := by
  rcases Nat.le_total a b with le | le
  · rwa [Nat.min_eq_left le]
  · rwa [Nat.min_eq_right le]

structure Joined (r : Nat × Nat) (rs joined : List (Nat × Nat)) : Prop where
  canonical : Canonical joined
  covers : ∀ n, Covers joined n ↔ Covers (r :: rs) n
  low : ∀ q ∈ joined, r.1 ≤ q.1

theorem joined_spec (proper : ∀ q ∈ r :: rs, Proper q)
    (rising : (r :: rs).Pairwise (·.1 ≤ ·.1)) : Joined r rs (joined r rs) := by
  fun_induction joined r rs with
  | case1 r =>
    exact ⟨⟨proper, List.pairwise_singleton _ _⟩, fun n => Iff.rfl, by simp⟩
  | case2 lo hi lo' hi' rest touch ih =>
    obtain ⟨first, second, proper⟩ :
        Proper (lo, hi) ∧ Proper (lo', hi') ∧ ∀ q ∈ rest, Proper q := by
      simpa using proper
    obtain ⟨low, rising⟩ := List.pairwise_cons.mp rising
    have next : lo ≤ lo' := low (lo', hi') List.mem_cons_self
    have both : Proper (lo, max hi hi') :=
      ⟨Nat.le_trans first.le (Nat.le_max_left _ _), first.low, valid_max first.high second.high⟩
    obtain ⟨canonical, covers, lows⟩ := ih (List.forall_mem_cons.mpr ⟨both, proper⟩)
      (List.pairwise_cons.mpr ⟨fun q known => low q (List.mem_cons_of_mem _ known),
        (List.pairwise_cons.mp rising).2⟩)
    refine ⟨canonical, fun n => ?_, lows⟩
    rw [covers, covers_cons, covers_cons, covers_cons, ← or_assoc]
    have := second.le
    refine or_congr_left ?_
    simp only
    omega
  | case3 lo hi lo' hi' rest apart ih =>
    obtain ⟨low, rising⟩ := List.pairwise_cons.mp rising
    obtain ⟨first, proper⟩ := List.forall_mem_cons.mp proper
    obtain ⟨canonical, covers, lows⟩ := ih proper rising
    refine ⟨canonical.cons first fun q known => ?_, fun n => ?_, ?_⟩
    · exact Nat.lt_of_lt_of_le (by simpa using apart) (lows q known)
    · rw [covers_cons, covers_cons (r := (lo, hi)), covers]
    · exact List.forall_mem_cons.mpr ⟨Nat.le_refl _, fun q known =>
        Nat.le_trans (low (lo', hi') List.mem_cons_self) (lows q known)⟩

theorem Canonical.rising (h : Canonical rs) : rs.Pairwise (·.1 ≤ ·.1) :=
  h.apart.imp_of_mem fun {a b} known _ apart => by
    have := (h.proper a known).le
    omega

theorem Canonical.covers_first (h : Canonical rs) (known : r ∈ rs) : Covers rs r.1 :=
  ⟨r, known, Nat.le_refl _, (h.proper r known).le⟩

theorem ofSorted_spec (proper : ∀ q ∈ rs, Proper q) (rising : rs.Pairwise (·.1 ≤ ·.1)) :
    Canonical (ofSorted rs).ranges ∧ ∀ n, (ofSorted rs).holds n ↔ Covers rs n := by
  simp only [holds_iff]
  cases rs with
  | nil => exact ⟨⟨nofun, .nil⟩, fun n => Iff.rfl⟩
  | cons r rs =>
    obtain ⟨canonical, covers, -⟩ := joined_spec proper rising
    exact ⟨canonical, covers⟩

theorem ofRanges_spec (proper : ∀ q ∈ rs, Proper q) :
    Canonical (ofRanges rs).ranges ∧ ∀ n, (ofRanges rs).holds n ↔ Covers rs n := by
  have rising : (rs.mergeSort fun a b => decide (a.1 ≤ b.1)).Pairwise (·.1 ≤ ·.1) := by
    refine (List.pairwise_mergeSort ?_ ?_ rs).imp of_decide_eq_true
    · simpa using fun a b c => Nat.le_trans
    · simpa using Nat.le_total
  obtain ⟨canonical, holds⟩ :=
    ofSorted_spec (fun q known => proper q (List.mem_mergeSort.mp known)) rising
  refine ⟨canonical, fun n => (holds n).trans ?_⟩
  simp only [Covers, List.mem_mergeSort]

theorem mem_merged {q : Nat × Nat} : q ∈ merged rs ss ↔ q ∈ rs ∨ q ∈ ss := by
  fun_induction merged rs ss <;> grind

theorem rising_merged (first : rs.Pairwise (·.1 ≤ ·.1)) (second : ss.Pairwise (·.1 ≤ ·.1)) :
    (merged rs ss).Pairwise (·.1 ≤ ·.1) := by
  fun_induction merged rs ss with
  | case1 => exact second
  | case2 => exact first
  | case3 a s b t less ih =>
    obtain ⟨low, rest⟩ := List.pairwise_cons.mp first
    refine List.pairwise_cons.mpr ⟨fun q known => ?_, ih rest second⟩
    rcases mem_merged.mp known with known | known
    · exact low q known
    · rcases List.mem_cons.mp known with rfl | known
      · exact less
      · exact Nat.le_trans less ((List.pairwise_cons.mp second).1 q known)
  | case4 a s b t more ih =>
    obtain ⟨low, rest⟩ := List.pairwise_cons.mp second
    refine List.pairwise_cons.mpr ⟨fun q known => ?_, ih first rest⟩
    rcases mem_merged.mp known with known | known
    · rcases List.mem_cons.mp known with rfl | known
      · exact Nat.le_of_not_le more
      · exact Nat.le_trans (Nat.le_of_not_le more) ((List.pairwise_cons.mp first).1 q known)
    · exact low q known

theorem previous_iff {start : Nat} (valid : n.isValidChar) (pos : 0 < start) :
    n ≤ previous start ↔ n < start := by
  unfold previous Nat.isValidChar at *
  split <;> omega

theorem next_iff {stop : Nat} (valid : n.isValidChar) : next stop ≤ n ↔ stop < n := by
  unfold next Nat.isValidChar at *
  split <;> omega

theorem valid_last : last.isValidChar := by decide

theorem valid_next {stop : Nat} (valid : stop.isValidChar) :
    (next stop).isValidChar ∨ last < next stop := by
  unfold next last Nat.isValidChar at *
  split <;> omega

theorem lt_next (stop : Nat) : stop < next stop := by
  unfold next
  split <;> omega

theorem valid_previous {start : Nat} (valid : start.isValidChar) (pos : 0 < start) :
    (previous start).isValidChar ∧ previous start < start := by
  unfold previous Nat.isValidChar at *
  split <;> omega

/-- What stands between ranges, from a place on that they do not reach back to. -/
structure Gaps (start : Nat) (rs gaps : List (Nat × Nat)) : Prop where
  canonical : Canonical gaps
  low : ∀ q ∈ gaps, start ≤ q.1
  covers : ∀ n, n.isValidChar → (Covers gaps n ↔ start ≤ n ∧ ¬ Covers rs n)

theorem gaps_spec {start : Nat} (h : Canonical rs) (valid : start.isValidChar ∨ last < start)
    (low : ∀ q ∈ rs, start ≤ q.1) : Gaps start rs (gaps start rs) := by
  induction rs generalizing start with
  | nil =>
    unfold gaps
    split
    · next within =>
      have from_start : start.isValidChar := valid.resolve_right (Nat.not_lt.mpr within)
      refine ⟨⟨?_, List.pairwise_singleton _ _⟩, by simp, fun n valid => ?_⟩
      · simpa using Proper.mk (r := (start, last)) within from_start valid_last
      · simp only [covers_cons, covers_nil, or_false, not_false_eq_true, and_true]
        unfold Nat.isValidChar last at *
        omega
    · next beyond =>
      refine ⟨⟨nofun, .nil⟩, nofun, fun n valid => ?_⟩
      simp only [covers_nil, false_iff, not_and]
      unfold Nat.isValidChar last at *
      omega
  | cons r rs ih =>
    obtain ⟨lo, hi⟩ := r
    obtain ⟨le, lower, upper⟩ : lo ≤ hi ∧ lo.isValidChar ∧ hi.isValidChar :=
      let ⟨le, lower, upper⟩ := h.proper (lo, hi) List.mem_cons_self
      ⟨le, lower, upper⟩
    have low : start ≤ lo := low (lo, hi) List.mem_cons_self
    have beyond (q : Nat × Nat) (known : q ∈ rs) : next hi ≤ q.1 := by
      have apart := (List.pairwise_cons.mp h.apart).1 q known
      exact (next_iff (h.tail.proper q known).low).mpr (Nat.lt_of_succ_lt apart)
    obtain ⟨canonical, lows, covers⟩ := ih h.tail (valid_next upper) beyond
    have after (n : Nat) : Covers rs n → hi + 1 < n := h.behind
    unfold gaps
    split
    · next before =>
      have positive : 0 < lo := Nat.lt_of_le_of_lt (Nat.zero_le _) before
      have from_start : start.isValidChar := by
        refine valid.resolve_right fun late => ?_
        unfold Nat.isValidChar last at *
        omega
      obtain ⟨to_previous, less⟩ := valid_previous lower positive
      have first : Proper (start, previous lo) :=
        ⟨(previous_iff from_start positive).mpr before, from_start, to_previous⟩
      refine ⟨canonical.cons first fun q known => ?_, ?_, fun n valid => ?_⟩
      · have := lows q known
        have := lt_next hi
        omega
      · refine List.forall_mem_cons.mpr ⟨Nat.le_refl _, fun q known => ?_⟩
        have := lows q known
        have := lt_next hi
        omega
      · rw [covers_cons, covers_cons, covers n valid, next_iff valid, previous_iff valid positive]
        by_cases covered : Covers rs n
        · have := after n covered
          simp only [covered, not_true_eq_false, and_false, or_false, or_true, iff_false]
          omega
        · simp only [covered, not_false_eq_true, and_true, or_false]
          omega
    · next reached =>
      refine ⟨canonical, fun q known => ?_, fun n valid => ?_⟩
      · have := lows q known
        have := lt_next hi
        omega
      · rw [covers_cons, covers n valid, next_iff valid]
        by_cases covered : Covers rs n
        · simp [covered]
        · simp only [covered, not_false_eq_true, and_true, or_false]
          omega

/-- What two rows of ranges have in common is in both first ranges, or behind one of them. -/
theorem common_cases {q : Nat × Nat} (h : Canonical (r :: rs)) (h' : Canonical (q :: ss))
    (first : Covers (r :: rs) n) (second : Covers (q :: ss) n) :
    (max r.1 q.1 ≤ n ∧ n ≤ min r.2 q.2) ∨ min r.2 q.2 + 1 < n := by
  have least := Nat.min_le_left r.2 q.2
  have least' := Nat.min_le_right r.2 q.2
  rcases covers_cons.mp first with ⟨low, high⟩ | later
  · rcases covers_cons.mp second with ⟨low', high'⟩ | later
    · exact .inl ⟨Nat.max_le.mpr ⟨low, low'⟩, Nat.le_min.mpr ⟨high, high'⟩⟩
    · have := h'.behind later
      exact .inr (by omega)
  · have := h.behind later
    exact .inr (by omega)

/-- The first range that ends is done with. -/
theorem common_behind {a b c d : Nat} (h : Canonical ((a, b) :: rs)) (h' : Canonical ((c, d) :: ss))
    (left : Canonical (common rs ((c, d) :: ss)) ∧
      ∀ n, Covers (common rs ((c, d) :: ss)) n ↔ Covers rs n ∧ Covers ((c, d) :: ss) n)
    (right : Canonical (common ((a, b) :: rs) ss) ∧
      ∀ n, Covers (common ((a, b) :: rs) ss) n ↔ Covers ((a, b) :: rs) n ∧ Covers ss n) :
    let behind := if b < d then common rs ((c, d) :: ss) else common ((a, b) :: rs) ss
    Canonical behind ∧ ∀ n, Covers behind n ↔
      Covers ((a, b) :: rs) n ∧ Covers ((c, d) :: ss) n ∧ min b d + 1 < n := by
  intro behind
  by_cases ends : b < d
  · rw [show behind = common rs ((c, d) :: ss) from if_pos ends]
    refine ⟨left.1, fun n => ?_⟩
    have after : Covers rs n → b + 1 < n := h.behind
    rw [left.2, covers_cons (r := (a, b))]
    constructor
    · rintro ⟨first, second⟩
      have := after first
      exact ⟨.inr first, second, by omega⟩
    · rintro ⟨first, second, further⟩
      exact ⟨first.resolve_left (by simp only; omega), second⟩
  · rw [show behind = common ((a, b) :: rs) ss from if_neg ends]
    refine ⟨right.1, fun n => ?_⟩
    have after : Covers ss n → d + 1 < n := h'.behind
    rw [right.2, covers_cons (r := (c, d))]
    constructor
    · rintro ⟨first, second⟩
      have := after second
      exact ⟨first, .inr second, by omega⟩
    · rintro ⟨first, second, further⟩
      exact ⟨first, second.resolve_left (by simp only; omega)⟩

theorem common_spec (h : Canonical rs) (h' : Canonical ss) :
    Canonical (common rs ss) ∧
      ∀ n, Covers (common rs ss) n ↔ Covers rs n ∧ Covers ss n := by
  fun_induction common rs ss with
  | case1 => exact ⟨⟨nofun, .nil⟩, by simp⟩
  | case2 => exact ⟨⟨nofun, .nil⟩, by simp⟩
  | case3 a b s c d t behind meet ih ih' =>
    obtain ⟨canonical, covers⟩ : Canonical behind ∧ ∀ n, Covers behind n ↔ _ :=
      common_behind h h' (ih h.tail h') (ih' h h'.tail)
    obtain ⟨-, low, high⟩ := h.proper (a, b) List.mem_cons_self
    obtain ⟨-, low', high'⟩ := h'.proper (c, d) List.mem_cons_self
    have proper : Proper (max a c, min b d) := ⟨meet, valid_max low low', valid_min high high'⟩
    refine ⟨canonical.cons proper fun q known => ?_, fun n => ?_⟩
    · exact ((covers q.1).mp (canonical.covers_first known)).2.2
    · rw [covers_cons, covers]
      constructor
      · rintro (⟨low, high⟩ | ⟨first, second, -⟩)
        · obtain ⟨low, low'⟩ := Nat.max_le.mp low
          obtain ⟨high, high'⟩ := Nat.le_min.mp high
          exact ⟨.here low high, .here low' high'⟩
        · exact ⟨first, second⟩
      · rintro ⟨first, second⟩
        exact (common_cases h h' first second).imp_right fun further => ⟨first, second, further⟩
  | case4 a b s c d t behind apart ih ih' =>
    obtain ⟨canonical, covers⟩ : Canonical behind ∧ ∀ n, Covers behind n ↔ _ :=
      common_behind h h' (ih h.tail h') (ih' h h'.tail)
    refine ⟨canonical, fun n => (covers n).trans ?_⟩
    constructor
    · rintro ⟨first, second, -⟩
      exact ⟨first, second⟩
    · rintro ⟨first, second⟩
      refine ⟨first, second, (common_cases h h' first second).resolve_left ?_⟩
      rintro ⟨low, high⟩
      exact apart (Nat.le_trans low high)

variable {s t : CharSet} (h : Canonical s.ranges) (h' : Canonical t.ranges)

theorem single_spec (c : Char) :
    Canonical (single c).ranges ∧ ∀ n, (single c).holds n ↔ n = c.toNat := by
  refine ⟨⟨?_, List.pairwise_singleton _ _⟩, fun n => ?_⟩
  · simpa [single] using Proper.mk (r := (c.toNat, c.toNat)) (Nat.le_refl _) c.valid c.valid
  · simp only [holds_iff, single, covers_cons, covers_nil, or_false]
    omega

include h in
theorem complement_spec : Canonical s.complement.ranges ∧
    ∀ n, n.isValidChar → (s.complement.holds n ↔ ¬ s.holds n) := by
  obtain ⟨canonical, -, covers⟩ := gaps_spec h (.inl (by decide)) fun q _ => Nat.zero_le q.1
  refine ⟨canonical, fun n valid => ?_⟩
  rw [holds_iff, holds_iff]
  exact (covers n valid).trans (and_iff_right (Nat.zero_le n))

include h h'

theorem union_spec : Canonical (s.union t).ranges ∧
    ∀ n, (s.union t).holds n ↔ s.holds n ∨ t.holds n := by
  have proper : ∀ q ∈ merged s.ranges t.ranges, Proper q :=
    fun q known => (mem_merged.mp known).elim (h.proper q) (h'.proper q)
  obtain ⟨canonical, holds⟩ := ofSorted_spec proper (rising_merged h.rising h'.rising)
  refine ⟨canonical, fun n => (holds n).trans ?_⟩
  simp only [Covers, mem_merged, holds_iff, or_and_right, exists_or]

theorem intersection_spec : Canonical (s.intersection t).ranges ∧
    ∀ n, (s.intersection t).holds n ↔ s.holds n ∧ t.holds n := by
  obtain ⟨canonical, covers⟩ := common_spec h h'
  obtain ⟨canonical, holds⟩ := ofSorted_spec canonical.proper canonical.rising
  refine ⟨canonical, fun n => (holds n).trans ?_⟩
  rw [covers, holds_iff, holds_iff]

theorem difference_spec : Canonical (s.difference t).ranges ∧
    ∀ n, n.isValidChar → ((s.difference t).holds n ↔ s.holds n ∧ ¬ t.holds n) := by
  obtain ⟨others, apart⟩ := complement_spec h'
  obtain ⟨canonical, holds⟩ := intersection_spec h others
  exact ⟨canonical, fun n valid => by rw [difference, holds, apart n valid]⟩

theorem symmetricDifference_spec : Canonical (s.symmetricDifference t).ranges ∧
    ∀ n, n.isValidChar →
      ((s.symmetricDifference t).holds n ↔ ¬ (s.holds n ↔ t.holds n)) := by
  obtain ⟨either, inEither⟩ := union_spec h h'
  obtain ⟨both, inBoth⟩ := intersection_spec h h'
  obtain ⟨canonical, holds⟩ := difference_spec either both
  refine ⟨canonical, fun n valid => ?_⟩
  rw [symmetricDifference, holds n valid, inEither, inBoth]
  tauto

/-- Two sets with the same members are equal. -/
theorem eq_of_holds (same : ∀ n, s.holds n = t.holds n) : s = t := by
  have ranges := h.unique h' fun n => by rw [← holds_iff, ← holds_iff, same]
  cases s
  cases t
  exact congrArg mk ranges

end SupervisedShell.CharSet
