import SupervisedShell.Proofs.Builtin.Lines
import SupervisedShell.Proofs.Text.Layouts
import SupervisedShell.Proofs.Text.Stepwise

set_option autoImplicit false

namespace SupervisedShell

variable {σ : Type}

open Caesar (shiftChar)

theorem not_separator_of_digit {c : Char} (digit : c.isDigit) : isSeparator c = false := by
  cases separator : isSeparator c with
  | false => rfl
  | true =>
    simp only [isSeparator, Bool.or_eq_true, decide_eq_true_eq] at separator
    rcases separator with ((((rfl | rfl) | rfl) | rfl) | rfl) | rfl <;> simp at digit

theorem Decimal.Spells.solid {ds : List Char} {v : Int} (h : Decimal.Spells ds v) : Solid ds := by
  cases h with
  | plain digits =>
    exact ⟨digits.nonempty, fun c known => not_separator_of_digit (digits.digits c known)⟩
  | plus digits =>
    refine ⟨List.cons_ne_nil _ _, List.forall_mem_cons.mpr ⟨by decide, ?_⟩⟩
    exact fun c known => not_separator_of_digit (digits.digits c known)
  | minus digits =>
    refine ⟨List.cons_ne_nil _ _, List.forall_mem_cons.mpr ⟨by decide, ?_⟩⟩
    exact fun c known => not_separator_of_digit (digits.digits c known)

namespace Caesar

def line (shift text : String) : String := "caesar " ++ shift ++ " " ++ text

def turned (s : Int) (text : String) : String :=
  .ofList (([' '].intercalate (words text.toList)).map (shiftChar s))

theorem words_line {shift : String} {s : Int} (spelled : Decimal.Spells shift.toList s)
    (text : String) :
    words (line shift text).toList = "caesar".toList :: shift.toList :: words text.toList := by
  have parts : (line shift text).toList =
      "caesar".toList ++ ' ' :: (shift.toList ++ ' ' :: text.toList) := by
    simp [line]
  have name : Solid "caesar".toList := solid_of_all (by decide) (by decide)
  rw [parts, words_solid_append name (by decide), words_solid_append spelled.solid (by decide)]

theorem tokenize_line {shift : String} {s : Int} (spelled : Decimal.Spells shift.toList s)
    {text : String} (few : (words text.toList).length ≤ 98) :
    tokenize (line shift text) =
      .ok ⟨"caesar" :: shift :: (words text.toList).map String.ofList⟩ := by
  refine tokenize_eq_ok_iff.mpr ⟨?_, ?_⟩
  · rw [words_line spelled, List.map_cons, List.map_cons, String.ofList_toList,
      String.ofList_toList]
  · simp only [List.length_cons, List.length_map, ArgVector.limit]
    omega

theorem joined_ofList (ws : List (List Char)) :
    joined (ws.map String.ofList) = [' '].intercalate ws := by
  rw [joined, List.map_map]
  simp [Function.comp_def]

theorem ofList_intercalate_space (ws : List (List Char)) :
    String.ofList ([' '].intercalate ws) = " ".intercalate (ws.map String.ofList) := by
  rw [← joined_ofList, ofList_joined]

theorem words_turned (s : Int) (text : String) :
    words (turned s text).toList = (words text.toList).map (List.map (shiftChar s)) := by
  rw [turned, String.toList_ofList, words_map (isSeparator_shiftChar s),
    words_intercalate fun _ => solid_of_mem_words]

theorem newline_not_mem_turned (s : Int) (text : String) : '\n' ∉ (turned s text).toList := by
  have pieces : (turned s text).toList = [' '].intercalate (words (turned s text).toList) := by
    rw [words_turned, ← map_intercalate_space, turned, String.toList_ofList]
  rw [pieces]
  exact newline_not_mem_intercalate fun _ => solid_of_mem_words

/-- There and back, but for the separators between the words. -/
theorem turned_turned {s t : Int} (round : (26 : Int) ∣ s + t) (text : String) :
    turned t (turned s text) = " ".intercalate ((words text.toList).map String.ofList) := by
  have home : shiftChar t ∘ shiftChar s = id := funext fun c => shiftChar_back round c
  rw [turned, words_turned, ← map_intercalate_space, List.map_map, home, List.map_id,
    ofList_intercalate_space]

theorem prints_turned {shift : String} {s : Int} (spelled : Decimal.Spells shift.toList s)
    (low : -2147483648 ≤ s)
    (high : s ≤ 2147483647) {text : String} (given : words text.toList ≠ []) :
    Builtin.Prints "caesar" (shift :: (words text.toList).map String.ofList) (turned s text) := by
  refine .caesar spelled low high (mt List.map_eq_nil_iff.mp given) (forall_rotates_iff.mpr ?_)
  rw [joined_ofList]

def room (text : String) : Nat := joinedSize ((words text.toList).map String.ofList)

theorem room_turned (s : Int) (text : String) : room (turned s text) = room text := by
  rw [room, room, words_turned, ← utf8Len_joined, ← utf8Len_joined, joined_ofList,
    joined_ofList, ← map_intercalate_space, utf8Len_shifted]

end Caesar

namespace Interpreter

open Caesar (turned room)

variable {host : Host σ} {p : Printout host} {prompt : String}

theorem writes_turned {shift text : String} {s : Int} (spelled : Decimal.Spells shift.toList s)
    (low : -2147483648 ≤ s) (high : s ≤ 2147483647) (given : 1 ≤ (words text.toList).length)
    (few : (words text.toList).length ≤ 98) (granted : host.grants (room text) = true)
    (env : Environment) {w : σ} (sound : p.sound w) :
    (standard host prompt).Writes p (Caesar.line shift text) env w (turned s text) 0 := by
  have nonempty : words text.toList ≠ [] := List.length_pos_iff.mp given
  have prints := Caesar.prints_turned spelled low high nonempty
  have split := Caesar.tokenize_line spelled few
  exact writes_of_yields (.inr rfl) ⟨prints, fun _ => granted⟩ split env sound

theorem caesar_round_trip (p : Printout host) (prompt : String) {a b text : String} {s t : Int}
    (spelled : Decimal.Spells a.toList s) (low : -2147483648 ≤ s) (high : s ≤ 2147483647)
    (spelled' : Decimal.Spells b.toList t) (low' : -2147483648 ≤ t) (high' : t ≤ 2147483647)
    (round : (26 : Int) ∣ s + t) (given : 1 ≤ (words text.toList).length)
    (few : (words text.toList).length ≤ 98) (granted : host.grants (room text) = true)
    (env : Environment) {w : σ} (sound : p.sound w) :
    ∃ c : String, '\n' ∉ c.toList ∧ (words c.toList).length = (words text.toList).length ∧
      (standard host prompt).Writes p (Caesar.line a text) env w c 0 ∧
      ∀ (env' : Environment) (w' : σ), p.sound w' →
        (standard host prompt).Writes p (Caesar.line b c) env' w'
        (" ".intercalate ((words text.toList).map String.ofList)) 0 := by
  have count : (words (turned s text).toList).length = (words text.toList).length := by
    rw [Caesar.words_turned, List.length_map]
  refine ⟨turned s text, Caesar.newline_not_mem_turned s text, count,
    writes_turned spelled low high given few granted env sound, fun env' w' sound' => ?_⟩
  rw [← Caesar.turned_turned round]
  refine writes_turned spelled' low' high' ?_ ?_ ?_ env' sound'
  · rw [count]
    exact given
  · rw [count]
    exact few
  · rw [Caesar.room_turned]
    exact granted

theorem caesar_round_trip_on_rig :
    let env := Environment.ofSearchPath none
    let r := Rig.start (Machine.ofFiles .standard none false) ⟨.empty, 0, 0, 0⟩
    Rig.printout.sound r ∧ Decimal.Spells "+3".toList (3 : Nat) ∧
      Decimal.Spells "-029".toList (-(29 : Nat)) ∧
      (26 : Int) ∣ 3 + -29 ∧ (words "Xyz\t é!".toList).length = 2 ∧
      Rig.host.grants (room "Xyz\t é!") = true ∧
      ∃ c : String, (standard Rig.host "> ").Writes Rig.printout (Caesar.line "+3" "Xyz\t é!")
        env r c 0 ∧
        (standard Rig.host "> ").Writes Rig.printout (Caesar.line "-029" c) env r "Xyz é!" 0 := by
  intro env r
  have sound : Rig.printout.sound r := ⟨rfl, rfl⟩
  have spelled : Decimal.Spells "+3".toList (3 : Nat) :=
    .plus (Decimal.digits_iff.mpr ⟨by decide, by decide⟩)
  have spelled' : Decimal.Spells "-029".toList (-(29 : Nat)) :=
    .minus (Decimal.digits_iff.mpr ⟨by decide, by decide⟩)
  have round : (26 : Int) ∣ 3 + -29 := by decide
  have count : (words "Xyz\t é!".toList).length = 2 := by decide
  have given : 1 ≤ (words "Xyz\t é!".toList).length := by omega
  have few : (words "Xyz\t é!".toList).length ≤ 98 := by omega
  have home : " ".intercalate ((words "Xyz\t é!".toList).map String.ofList) = "Xyz é!" := by
    decide
  obtain ⟨c, -, -, there, back⟩ :=
    caesar_round_trip Rig.printout "> " spelled (by decide) (by decide) spelled'
    (by decide) (by decide) round given few rfl env sound
  refine ⟨sound, spelled, spelled', round, count, rfl, c, there, ?_⟩
  rw [← home]
  exact back env r sound

end Interpreter

end SupervisedShell
