import Mathlib.Data.List.Basic
import SupervisedShell.Machine.Channel
/-!
Pipes. What was written comes out in the order in which it was written, whatever amounts are written
and read at a time.
-/

set_option autoImplicit false

namespace SupervisedShell

namespace Octets

theorem toList_loop (b : ByteArray) (i : Nat) (front : Bytes) :
    ByteArray.toList.loop b i front = front.reverse ++ b.data.toList.drop i := by
  fun_induction ByteArray.toList.loop b i front with
  | case1 i front more ih =>
    have inside : i < b.data.toList.length := by simpa using more
    have here : b.get! i = b.data.toList[i] := getElem!_pos b.data i more
    rw [ih, List.drop_eq_getElem_cons inside, List.reverse_cons, List.append_assoc, here]
    rfl
  | case2 i front done =>
    rw [List.drop_eq_nil_of_le (by simpa using done), List.append_nil]

theorem toList_eq (b : ByteArray) : b.toList = b.data.toList := toList_loop b 0 []

@[simp] theorem length_toList (b : ByteArray) : b.toList.length = b.size := by
  rw [toList_eq, Array.length_toList]
  rfl

@[simp] theorem toList_append (a b : ByteArray) : (a ++ b).toList = a.toList ++ b.toList := by
  rw [toList_eq, toList_eq, toList_eq, ByteArray.data_append, Array.toList_append]

theorem toList_extract (b : ByteArray) (i j : Nat) :
    (b.extract i j).toList = (b.toList.take j).drop i := by
  rw [toList_eq, toList_eq, ByteArray.data_extract, Array.toList_extract, List.extract_eq_take_drop,
    List.drop_take]

end Octets

def Page.left (p : Page) : Bytes := p.bytes.toList.drop p.taken

@[simp] theorem Page.length_left (p : Page) : p.left.length = p.bytes.size - p.taken := by
  simp [left]

namespace Pipe

/-- What was written and not read yet. -/
def contents (pages : List Page) : Bytes := pages.flatMap Page.left

@[simp] theorem contents_nil : contents [] = [] := rfl

@[simp] theorem contents_cons (p : Page) (pages : List Page) :
    contents (p :: pages) = p.left ++ contents pages := List.flatMap_cons

@[simp] theorem contents_append (pages more : List Page) :
    contents (pages ++ more) = contents pages ++ contents more := List.flatMap_append

/-- As much as is wanted comes out from the front, and the rest stays. -/
theorem pull_spec (most : Nat) (pages : List Page) :
    (pull most pages).1.toList = (contents pages).take most ∧
      contents (pull most pages).2 = (contents pages).drop most := by
  induction pages generalizing most with
  | nil => simp [pull, Octets.toList_eq]
  | cons p rest ih =>
    simp only [pull, contents_cons, List.take_append, List.drop_append, Page.length_left]
    split
    · next less =>
      have done : most - (p.bytes.size - p.taken) = 0 := by omega
      rw [done, List.take_zero, List.drop_zero, Octets.toList_extract, List.append_nil]
      refine ⟨?_, ?_⟩
      · rw [Page.left, List.take_drop]
      · rw [contents_cons, Page.left, Page.left, List.drop_drop]
    · next all =>
      obtain ⟨out, left⟩ := ih (most - (p.bytes.size - p.taken))
      have whole : p.bytes.toList.take p.bytes.size = p.bytes.toList :=
        List.take_of_length_le (by simp)
      have first : p.left.take most = p.left :=
        List.take_of_length_le (by rw [Page.length_left]; omega)
      have gone : p.left.drop most = [] :=
        List.drop_eq_nil_of_le (by rw [Page.length_left]; omega)
      rw [Octets.toList_append, Octets.toList_extract, whole, first, gone, out, left]
      exact ⟨rfl, rfl⟩

/-- No more was read of a page than was written there. -/
def Sound (pages : List Page) : Prop := ∀ p ∈ pages, p.taken ≤ p.bytes.size

theorem extendLast_spec {b : ByteArray} {pages extended : List Page} (sound : Sound pages)
    (fits : extendLast b pages = some extended) :
    contents extended = contents pages ++ b.toList ∧ Sound extended := by
  fun_induction extendLast b pages generalizing extended with
  | case1 | case3 => cases fits
  | case2 p room =>
    cases fits
    have taken := sound p List.mem_cons_self
    refine ⟨?_, List.forall_mem_singleton.mpr ?_⟩
    · simp [Page.left, List.drop_append_of_le_length, taken]
    · rw [ByteArray.size_append]
      exact Nat.le_add_right_of_le taken
  | case4 p rest more ih =>
    obtain ⟨behind, found, rfl⟩ := Option.map_eq_some_iff.mp fits
    obtain ⟨first, sound⟩ := List.forall_mem_cons.mp sound
    obtain ⟨contents, sound⟩ := ih sound found
    exact ⟨by simp [contents], List.forall_mem_cons.mpr ⟨first, sound⟩⟩

theorem take_drop_append (bytes : Bytes) {i j most : Nat} (le : i ≤ j)
    (enough : j ≤ most ∨ bytes.length ≤ most) :
    (bytes.take j).drop i ++ (bytes.take most).drop j = (bytes.take most).drop i := by
  have same : bytes.take j = (bytes.take most).take j := by
    rcases enough with further | all
    · rw [List.take_take, Nat.min_eq_left further]
    · rw [List.take_of_length_le all]
  have parted := List.take_append_drop (j - i) ((bytes.take most).drop i)
  rwa [← List.drop_take, ← same, List.drop_drop, Nat.add_sub_cancel' le] at parted

/-- Fresh pages hold what follows, up to as many bytes as do not go on them. -/
theorem fill_spec (b : ByteArray) (n start : Nat) :
    contents (fill b n start).1 = (b.toList.take (b.size - (fill b n start).2)).drop start ∧
      Sound (fill b n start).1 ∧ (fill b n start).2 ≤ b.size - start := by
  induction n generalizing start with
  | zero =>
    refine ⟨(List.drop_eq_nil_of_le ?_).symm, nofun, Nat.le_refl _⟩
    rw [List.length_take, Octets.length_toList]
    simp only [fill]
    omega
  | succ n ih =>
    unfold fill
    split
    · next done =>
      refine ⟨(List.drop_eq_nil_of_le ?_).symm, nofun, Nat.zero_le _⟩
      rw [List.length_take, Octets.length_toList]
      exact Nat.le_trans (Nat.min_le_right _ _) done
    · next more =>
      obtain ⟨filled, sound, left⟩ := ih (start + Page.size)
      have behind : (fill b n (start + Page.size)).2 ≤ b.size - start :=
        Nat.le_trans left (Nat.sub_le_sub_left (Nat.le_add_right _ _) _)
      refine ⟨?_, List.forall_mem_cons.mpr ⟨Nat.zero_le _, sound⟩, behind⟩
      rw [contents_cons, filled, Page.left, Octets.toList_extract, List.drop_zero]
      refine take_drop_append _ (Nat.le_add_right _ _) ?_
      rw [Octets.length_toList]
      omega

/-- What is written goes behind what was written before, all but the bytes that are left. -/
theorem push_spec (b : ByteArray) {p : Pipe} (sound : Sound p.pages) :
    contents (p.push b).1.pages = contents p.pages ++ b.toList.take (b.size - (p.push b).2) ∧
      Sound (p.push b).1.pages ∧ (p.push b).2 ≤ b.size := by
  unfold push
  dsimp only
  split
  · next extended found =>
    have fits : extendLast (b.extract 0 (b.size % Page.size)) p.pages = some extended := by
      split at found
      · cases found
      · exact found
    obtain ⟨first, extended_sound⟩ := extendLast_spec sound fits
    obtain ⟨filled, fresh, left⟩ :=
      fill_spec b (mostPages - extended.length) (b.size % Page.size)
    have odd : b.size % Page.size ≤ b.size := Nat.mod_le _ _
    refine ⟨?_, List.forall_mem_append.mpr ⟨extended_sound, fresh⟩,
      Nat.le_trans left (Nat.sub_le _ _)⟩
    rw [contents_append, first, filled, List.append_assoc, Octets.toList_extract,
      take_drop_append _ (Nat.zero_le _) (.inl (by omega)), List.drop_zero]
  · obtain ⟨filled, fresh, left⟩ := fill_spec b (mostPages - p.pages.length) 0
    refine ⟨?_, List.forall_mem_append.mpr ⟨sound, fresh⟩, left⟩
    rw [contents_append, filled, List.drop_zero]

theorem sound_pull (most : Nat) {pages : List Page} (sound : Sound pages) :
    Sound (pull most pages).2 := by
  induction pages generalizing most with
  | nil => exact sound
  | cons p rest ih =>
    obtain ⟨first, sound⟩ := List.forall_mem_cons.mp sound
    unfold pull
    dsimp only
    split
    · next less => exact List.forall_mem_cons.mpr ⟨by simp only; omega, sound⟩
    · exact ih _ sound

inductive Use where
  | write (b : ByteArray)
  | read (most : Nat)

/-- What a pipe takes in and gives out while it is used. -/
def carry : Pipe → List Use → Bytes × Bytes × Pipe
  | p, [] => ([], [], p)
  | p, .write b :: uses =>
    let (p', left) := p.push b
    let (taken, given, q) := carry p' uses
    (b.toList.take (b.size - left) ++ taken, given, q)
  | p, .read most :: uses =>
    let (b, pages) := pull most p.pages
    let (taken, given, q) := carry ⟨pages⟩ uses
    (taken, b.toList ++ given, q)

/-- However it is used, a pipe gives out what it took in, in the same order, but for what it still
holds. -/
theorem carry_spec {p : Pipe} (sound : Sound p.pages) (uses : List Use) :
    contents p.pages ++ (p.carry uses).1 =
      (p.carry uses).2.1 ++ contents (p.carry uses).2.2.pages := by
  induction uses generalizing p with
  | nil => simp [carry]
  | cons use uses ih =>
    cases use with
    | write b =>
      obtain ⟨held, sound, -⟩ := push_spec b sound
      have later := ih sound
      rw [held, List.append_assoc] at later
      exact later
    | read most =>
      obtain ⟨out, left⟩ := pull_spec most p.pages
      have later := @ih ⟨(pull most p.pages).2⟩ (sound_pull most sound)
      rw [left] at later
      simp only [carry, List.append_assoc, out, ← later]
      rw [← List.append_assoc, List.take_append_drop]

theorem carry_empty (uses : List Use) :
    (empty.carry uses).1 = (empty.carry uses).2.1 ++ contents (empty.carry uses).2.2.pages :=
  @carry_spec empty nofun uses

end Pipe

end SupervisedShell
