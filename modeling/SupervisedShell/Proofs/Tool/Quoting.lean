import SupervisedShell.Proofs.Script.Quoting
import SupervisedShell.Tool.Quoting
/-!
Programs name files the way a script would have to write them.
-/

set_option autoImplicit false

namespace SupervisedShell.Program.Quoting

open Script

theorem between_eq {cs : List Char} (plain : ∀ c ∈ cs, isPrintable c = true) :
    (between false cs).toList =
      "'\\''".toList.intercalate (cs.splitOnP (· = '\x27')) := by
  induction cs with
  | nil => rfl
  | cons c cs ih =>
    obtain ⟨first, others⟩ := List.forall_mem_cons.mp plain
    obtain ⟨p, parts, split⟩ :=
      List.exists_cons_of_ne_nil (List.splitOnP_ne_nil (· = '\x27') cs)
    have later := ih others
    rw [split] at later
    rw [List.splitOnP_cons_eq_if_modifyHead, split]
    by_cases quote : c = '\x27'
    · subst quote
      rw [if_pos (by decide), List.intercalate_cons_cons]
      simp [between, later]
    · rw [if_neg (by simpa using quote), List.modifyHead_cons]
      have written : (between false (c :: cs)).toList = c :: (between false cs).toList := by
        simp [between, quote, first]
      rw [written, later]
      cases parts with
      | nil => rw [List.intercalate_singleton, List.intercalate_singleton]
      | cons q parts =>
        rw [List.intercalate_cons_cons, List.intercalate_cons_cons]
        rfl

theorem ordinary_of_bare {s : String} (h : needsQuotes s = false) :
    s.toList ≠ [] ∧ s.toList.head? ≠ some '~' ∧
      ∀ c ∈ s.toList, isSpecial c = false := by
  have front {c : Char} (h : isSpecialInFront c = false) : some c ≠ some '~' := by
    intro same
    cases same
    cases h
  unfold needsQuotes at h
  split at h
  · cases h
  · next c one =>
    simp only [Bool.or_eq_false_iff] at h
    rw [one]
    exact ⟨List.cons_ne_nil _ _, front h.1.1.2, List.forall_mem_singleton.mpr h.1.2⟩
  · next c cs _ more =>
    rw [Bool.or_eq_false_iff, List.any_eq_false] at h
    rw [more]
    refine ⟨List.cons_ne_nil _ _, front h.1, fun d known => ?_⟩
    exact Bool.eq_false_iff.mpr fun special => h.2 d known (by rw [special]; rfl)

theorem isSpecial_of_endsWord {c : Char} (plain : isPrintable c = true)
    (ends : Reader.endsWord c = true) : isSpecial c = true := by
  simp only [Reader.endsWord, List.contains_iff_mem, List.mem_cons, List.not_mem_nil,
    or_false] at ends
  rcases ends with rfl | rfl | rfl | rfl | rfl | rfl | rfl | rfl | rfl | rfl
  case inr.inl | inr.inr.inl => exact absurd plain (by decide)
  all_goals decide

theorem isSpecial_of_active {c : Char} (active : c ∈ Segment.active) : isSpecial c = true := by
  simp only [Segment.active, List.mem_cons, List.not_mem_nil, or_false] at active
  rcases active with rfl | rfl | rfl | rfl <;> decide

theorem not_tame_of_active {c : Char} (active : c ∈ Segment.active) :
    isTame c = false ∧ isSpecialInFront c = false := by
  simp only [Segment.active, List.mem_cons, List.not_mem_nil, or_false] at active
  rcases active with rfl | rfl | rfl | rfl <;> decide

theorem plain_bare {c : Char} (printable : isPrintable c = true) (h : isSpecial c = false) :
    (Segment.bare c).Plain ∧ (Segment.bare c).Tame := by
  have apart {d : Char} (special : isSpecial d = true) : c ≠ d := by
    rintro rfl
    exact absurd special (by simp [h])
  refine ⟨⟨?_, apart (by decide), ?_⟩, ?_⟩
  · exact Bool.eq_false_iff.mpr fun ends => apart (isSpecial_of_endsWord printable ends) rfl
  · exact fun active => apart (isSpecial_of_active active) rfl
  · simp only [Segment.Tame, List.mem_cons, List.not_mem_nil, or_false, not_or]
    exact ⟨apart (by decide), apart (by decide), apart (by decide)⟩

theorem plain_double {s : String} (h : fitsDouble s = true) : (Segment.double s.toList).Plain := by
  intro c known active
  obtain ⟨calm, ordinary⟩ := not_tame_of_active active
  simp only [fitsDouble, Bool.and_eq_true, Bool.or_eq_true] at h
  obtain ⟨⟨-, front⟩, behind⟩ := h
  cases split : s.toList with
  | nil => simp [split] at known
  | cons d ds =>
    rw [split] at known front behind
    rcases List.mem_cons.mp known with rfl | later
    · simp [calm, ordinary] at front
    · simp [List.all_eq_true.mp behind c later] at calm

/-- A name of characters that can be printed is read back by a script as one word, which stands
for it. -/
theorem typed_read_back {s : String} (plain : ∀ c ∈ s.toList, isPrintable c = true) :
    ∃ w quoted, Reader.IsWord (typed s).toList w quoted ∧
      ∀ capture, Expansion.fields capture w = pure [s] := by
  unfold typed
  split
  · next bare =>
    obtain ⟨nonempty, front, ordinary⟩ := ordinary_of_bare (by simpa using bare)
    have each : ∀ x ∈ s.toList.map Segment.bare, x.Plain ∧ x.Tame := by
      intro x known
      obtain ⟨c, inside, rfl⟩ := List.mem_map.mp known
      exact plain_bare (plain c inside) (ordinary c inside)
    have reads := Reader.isWord_row fun x known => (each x known).1
    have stands := fun capture => Segment.fields_row capture (by simpa using nonempty)
      (fun x known => (each x known).2) (by simpa using front)
    have text : (s.toList.map Segment.bare).flatMap Segment.text = s.toList := by
      simp [List.flatMap_map, Segment.text]
    have letters : (s.toList.map Segment.bare).flatMap Segment.letters = s.toList := by
      simp [List.flatMap_map, Segment.letters]
    rw [text] at reads
    simp only [letters, String.ofList_toList] at stands
    exact ⟨_, _, reads, stands⟩
  · split
    · next fits =>
      have reads := Reader.isWord_row (List.forall_mem_singleton.mpr (plain_double fits))
      have stands (capture : Script → Act String) :
          Expansion.fields capture ([Segment.double s.toList].flatMap Segment.word) =
            pure [String.ofList ([Segment.double s.toList].flatMap Segment.letters)] :=
        Segment.fields_row capture (List.cons_ne_nil _ _) (by simp [Segment.Tame]) (by simp)
      have text : [Segment.double s.toList].flatMap Segment.text = ("\"" ++ s ++ "\"").toList := by
        simp [Segment.text]
      have letters : [Segment.double s.toList].flatMap Segment.letters = s.toList := by
        simp [Segment.letters]
      rw [text] at reads
      simp only [letters, String.ofList_toList] at stands
      exact ⟨_, _, reads, stands⟩
    · have single : (Segment.escaped '\x27').Plain := by
        change '\x27' ≠ '\n'
        decide
      obtain ⟨w, reads, stands⟩ := Segment.parted_read_back single rfl rfl s
      refine ⟨w, true, ?_, fun capture => (stands capture).1⟩
      rw [String.toList_append, String.toList_append, between_eq plain]
      exact reads

end SupervisedShell.Program.Quoting
