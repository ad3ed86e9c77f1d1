import Mathlib.Data.List.Induction
import Mathlib.Data.List.Nodup
import SupervisedShell.LogFilter
/-!
Which directive of a filter decides about a record, and that the order in which directives are given
does not matter.
-/

set_option autoImplicit false

namespace SupervisedShell.Log.Filter

variable {ds es : List Directive} {target : String} {d e : Directive}

/-- A directive that covers the target: no other that does is longer, and those behind it are
shorter. -/
structure Decides (ds : List Directive) (target : String) (d : Directive) : Prop where
  covers : covers d target
  foremost : ∃ pre post, ds = pre ++ d :: post ∧
    (∀ e ∈ pre, Filter.covers e target → size e ≤ size d) ∧
    ∀ e ∈ post, Filter.covers e target → size e < size d

namespace Decides

theorem mem (h : Decides ds target d) : d ∈ ds := by
  obtain ⟨pre, post, rfl, -⟩ := h.foremost
  simp

theorem size_le (h : Decides ds target d) (known : e ∈ ds) (covered : Filter.covers e target) :
    size e ≤ size d := by
  obtain ⟨pre, post, rfl, before, behind⟩ := h.foremost
  rw [List.mem_append, List.mem_cons] at known
  rcases known with known | rfl | known
  · exact before e known covered
  · exact Nat.le_refl _
  · exact Nat.le_of_lt (behind e known covered)

theorem last (covers : Filter.covers e target)
    (most : ∀ d ∈ ds, Filter.covers d target → size d ≤ size e) :
    Decides (ds ++ [e]) target e :=
  ⟨covers, ds, [], rfl, most, by simp⟩

theorem append (h : Decides ds target d) (less : Filter.covers e target → size e < size d) :
    Decides (ds ++ [e]) target d := by
  obtain ⟨covers, pre, post, rfl, before, behind⟩ := h
  refine ⟨covers, pre, post ++ [e], by simp, before, fun x known => ?_⟩
  rw [List.mem_append, List.mem_singleton] at known
  rcases known with known | rfl
  · exact behind x known
  · exact less

theorem unique (h : Decides ds target d) (h' : Decides ds target e) : d = e := by
  have same : size d = size e :=
    Nat.le_antisymm (h'.size_le h.mem h.covers) (h.size_le h'.mem h'.covers)
  obtain ⟨pre, post, rfl, -, behind⟩ := h.foremost
  obtain ⟨pre', post', split, -, behind'⟩ := h'.foremost
  obtain ⟨between, rfl, rest⟩ | ⟨between, rfl, rest⟩ := List.append_eq_append_iff.mp split
  · cases between with
    | nil => exact (List.cons.inj rest).1
    | cons x between =>
      obtain ⟨rfl, rfl⟩ := List.cons.inj rest
      have less := behind e (by simp) h'.covers
      omega
  · cases between with
    | nil => exact (List.cons.inj rest).1.symm
    | cons x between =>
      obtain ⟨rfl, rfl⟩ := List.cons.inj rest
      have less := behind' d (by simp) h.covers
      omega

end Decides

def decider (ds : List Directive) (target : String) : Option Directive :=
  (ds.filter (covers · target)).foldl closer none

theorem decider_append (ds : List Directive) (target : String) (e : Directive) :
    decider (ds ++ [e]) target =
      if covers e target then closer (decider ds target) e else decider ds target := by
  rw [decider, List.filter_append, List.foldl_append, List.filter_cons]
  split <;> rfl

/-- Either no directive covers the target, or one is found that decides. -/
theorem decider_cases (ds : List Directive) (target : String) :
    (decider ds target = none ∧ ∀ d ∈ ds, ¬ covers d target) ∨
      ∃ d, decider ds target = some d ∧ Decides ds target d := by
  induction ds using List.reverseRecOn with
  | nil => exact .inl ⟨rfl, by simp⟩
  | append_singleton ds e ih =>
    rw [decider_append]
    by_cases covered : covers e target
    · refine .inr ?_
      rw [if_pos covered]
      rcases ih with ⟨missed, bare⟩ | ⟨best, found, decides⟩
      · rw [missed]
        exact ⟨e, rfl, .last covered fun d known covers => absurd covers (bare d known)⟩
      · rw [found, closer]
        by_cases less : size e < size best
        · exact ⟨best, if_pos less, decides.append fun _ => less⟩
        · refine ⟨e, if_neg less, .last covered fun d known covers => ?_⟩
          exact Nat.le_trans (decides.size_le known covers) (Nat.le_of_not_lt less)
    · rw [if_neg covered]
      rcases ih with ⟨missed, bare⟩ | ⟨best, found, decides⟩
      · refine .inl ⟨missed, fun d known => ?_⟩
        rw [List.mem_append, List.mem_singleton] at known
        rcases known with known | rfl
        · exact bare d known
        · exact covered
      · exact .inr ⟨best, found, decides.append fun covers => absurd covers covered⟩

theorem decider_eq_some_iff : decider ds target = some d ↔ Decides ds target d := by
  obtain ⟨missed, bare⟩ | ⟨best, found, decides⟩ := decider_cases ds target
  · rw [missed]
    exact ⟨nofun, fun h => absurd h.covers (bare d h.mem)⟩
  · rw [found, Option.some.injEq]
    exact ⟨fun same => same ▸ decides, decides.unique⟩

theorem shows_iff (f : Filter) (r : Record) :
    f.shows r ↔ (∃ d, Decides f.directives r.source.target d ∧ r.level.rank ≤ d.rank) ∧
      ∀ p ∈ f.pattern?, p.isMatch r.text := by
  have found : f.shows r = ((decider f.directives r.source.target).any
      (fun d => r.level.rank ≤ d.rank) && f.pattern?.all (·.isMatch r.text)) := rfl
  simp only [found, Bool.and_eq_true, Option.any_eq_true, Option.all_eq_true, decide_eq_true_eq,
    decider_eq_some_iff, Option.mem_def]

/-- A filter of one level for all targets. -/
theorem shows_ofLevel (l : Level) (r : Record) :
    (ofLevel l).shows r ↔ r.level.rank ≤ l.rank := by
  simp [ofLevel, shows, covers, closer]

theorem targets_put (ds : List Directive) (d : Directive) :
    (put ds d).map (·.target?) =
      if ds.any (·.target? = d.target?) then ds.map (·.target?)
      else ds.map (·.target?) ++ [d.target?] := by
  unfold put
  split
  · rw [List.map_map]
    refine List.map_congr_left fun e _ => ?_
    by_cases same : e.target? = d.target? <;> simp [same]
  · exact List.map_append

theorem nodup_put (distinct : (ds.map (·.target?)).Nodup) (d : Directive) :
    ((put ds d).map (·.target?)).Nodup := by
  rw [targets_put]
  split
  · exact distinct
  · next fresh =>
    refine List.nodup_append.mpr ⟨distinct, List.nodup_singleton _, ?_⟩
    simpa using fresh

theorem nodup_foldl_put (found : List Directive) (distinct : (ds.map (·.target?)).Nodup) :
    ((found.foldl put ds).map (·.target?)).Nodup := by
  induction found generalizing ds with
  | nil => exact distinct
  | cons d found ih => exact ih (nodup_put distinct d)

/-- A text has one directive at most for each target. -/
theorem nodup_ofText (text : String) : ((ofText text).1.directives.map (·.target?)).Nodup := by
  have given (found : List Directive) (p? : Option Regex) :
      ((ofDirectives (found.foldl put []) p?).directives.map (·.target?)).Nodup := by
    unfold ofDirectives
    split
    · exact List.nodup_singleton _
    · exact nodup_foldl_put found List.nodup_nil
  unfold ofText
  split
  · exact given [] none
  · split
    · exact given _ none
    · split <;> exact given _ _
    · exact given [] none

theorem eq_of_front {s t : String} (front : s.toList <+: t.toList)
    (same : s.utf8ByteSize = t.utf8ByteSize) : s = t := by
  obtain ⟨rest, split⟩ := front
  obtain rfl : t = s ++ String.ofList rest := String.toList_inj.mp (by simp [split])
  rw [String.utf8ByteSize_append] at same
  have nothing : (String.ofList rest).utf8ByteSize = 0 := by omega
  rw [String.utf8ByteSize_eq_zero_iff.mp nothing, String.append_empty]

theorem target?_eq_of_size (named : d.target? ≠ some "") (named' : e.target? ≠ some "")
    (first : covers d target) (second : covers e target) (same : size d = size e) :
    d.target? = e.target? := by
  obtain ⟨none | s, rank⟩ := d <;> obtain ⟨none | t, rank'⟩ := e
  · rfl
  · exact absurd (congrArg some (String.utf8ByteSize_eq_zero_iff.mp same.symm)) named'
  · exact absurd (congrArg some (String.utf8ByteSize_eq_zero_iff.mp same)) named
  · rcases List.prefix_or_prefix_of_prefix (List.isPrefixOf_iff_prefix.mp first)
      (List.isPrefixOf_iff_prefix.mp second) with front | front
    · exact congrArg some (eq_of_front front same)
    · exact congrArg some (eq_of_front front same.symm).symm

theorem decides_iff_of_distinct (distinct : (ds.map (·.target?)).Nodup)
    (named : ∀ d ∈ ds, d.target? ≠ some "") :
    Decides ds target d ↔ d ∈ ds ∧ covers d target ∧
      ∀ e ∈ ds, covers e target → size e ≤ size d := by
  constructor
  · intro h
    exact ⟨h.mem, h.covers, fun e => h.size_le⟩
  · rintro ⟨known, covered, most⟩
    obtain ⟨pre, post, rfl⟩ := List.append_of_mem known
    refine ⟨covered, pre, post, rfl, fun e before => most e (by simp [before]), ?_⟩
    intro e behind covers
    refine Nat.lt_of_le_of_ne (most e (by simp [behind]) covers) fun same => ?_
    have same := target?_eq_of_size (named e (by simp [behind])) (named d known) covers covered same
    rw [List.map_append, List.map_cons, List.nodup_append] at distinct
    exact (List.nodup_cons.mp distinct.2.1).1 (same ▸ List.mem_map_of_mem behind)

/-- Directives for different targets can be given in any order. -/
theorem shows_of_perm {f g : Filter} (same : f.directives.Perm g.directives)
    (distinct : (f.directives.map (·.target?)).Nodup)
    (named : ∀ d ∈ f.directives, d.target? ≠ some "") (patterns : f.pattern? = g.pattern?)
    (r : Record) : f.shows r = g.shows r := by
  have distinct' : (g.directives.map (·.target?)).Nodup := (same.map _).nodup_iff.mp distinct
  have named' : ∀ d ∈ g.directives, d.target? ≠ some "" :=
    fun d known => named d (same.mem_iff.mpr known)
  rw [Bool.eq_iff_iff, shows_iff, shows_iff, patterns]
  simp only [decides_iff_of_distinct distinct named, decides_iff_of_distinct distinct' named',
    same.mem_iff]

end SupervisedShell.Log.Filter
