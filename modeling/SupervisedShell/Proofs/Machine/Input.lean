import SupervisedShell.CommandLine
import SupervisedShell.Proofs.Machine.Pipe
import SupervisedShell.Proofs.Session.Typed
/-!
The machine's input as the shell reads it: what is left of a file behind the place that was read up
to.
-/

set_option autoImplicit false

namespace SupervisedShell

theorem Files.node?_put (f : Files) (t : Instant) {p : Place} (named : p ≠ []) (n : Node) :
    (f.put t p n).node? p = some n := by
  simp only [node?, List.isEmpty_iff, if_neg named, put]
  split
  · next known =>
    obtain ⟨_, known⟩ := Option.isSome_iff_exists.mp known
    obtain ⟨x, found, -⟩ := Option.map_eq_some_iff.mp known
    have same : x.1 = p := by simpa using List.find?_some found
    simp only [lookUp?, List.find?_map]
    change Option.map _ (Option.map _ (Option.map _ (f.entries.find? (·.1 = p)))) = _
    rw [found]
    simp [same]
  · simp [lookUp?]

namespace World

def content (w : World) (p : Place) : ByteArray := (w.files.node? p).elim .empty Node.bytes

theorem opening?_setChannel {w : World} {id : Nat} {o : Opening} (known : w.opening? id = some o)
    (c : Channel) : (w.setChannel id c).opening? id = some { o with channel := c } := by
  obtain ⟨x, found, rfl⟩ := Option.map_eq_some_iff.mp known
  have same : x.1 = id := by simpa using List.find?_some found
  simp only [opening?, setChannel, List.find?_map]
  change Option.map _ (Option.map _ (w.openings.find? (·.1 = id))) = _
  rw [found]
  simp [same]

/-- What a process has yet to read of a file. -/
def unread (w : World) (pid n : Nat) : Option Bytes :=
  match (w.opening pid n).bind w.opening? with
  | some ⟨.file p offset _, true, _⟩ => some ((w.content p).toList.drop offset)
  | _ => none

theorem unread_eq_some_iff {w : World} {pid n : Nat} {text : Bytes} :
    w.unread pid n = some text ↔ ∃ id p offset appends writes,
      w.opening pid n = some id ∧
        w.opening? id = some ⟨.file p offset appends, true, writes⟩ ∧
        text = (w.content p).toList.drop offset := by
  unfold unread
  constructor
  · intro left
    split at left
    · next p offset appends writes found =>
      obtain ⟨id, opened, known⟩ := Option.bind_eq_some_iff.mp found
      exact ⟨id, p, offset, appends, writes, opened, known, (Option.some.inj left).symm⟩
    · cases left
  · rintro ⟨id, p, offset, appends, writes, opened, known, rfl⟩
    simp [opened, known]

theorem read?_of_unread {w : World} {pid n most : Nat} {text : Bytes} (room : 0 < most)
    (left : w.unread pid n = some text) :
    ∃ b rest w', w.read? pid n (.upTo most) = some (.bytes b, w') ∧
      w'.unread pid n = some rest ∧ text = b ++ rest ∧ (b = [] → text = []) := by
  obtain ⟨id, p, offset, appends, writes, opened, known, rfl⟩ := unread_eq_some_iff.mp left
  let stop := min (w.content p).size (offset + most)
  have reading : w.read? pid n (.upTo most) =
      if stop ≤ offset then some (.bytes [], w)
      else some (.bytes ((w.content p).extract offset stop).toList,
        (w.setChannel id (.file p stop appends)).stir) := by
    simp only [read?, opened, known, Option.bind_some, Option.map_some]
    rfl
  by_cases done : (w.content p).size ≤ offset
  · have nothing : (w.content p).toList.drop offset = [] := by simpa using done
    rw [if_pos (Nat.le_trans (Nat.min_le_left _ _) done)] at reading
    exact ⟨[], _, w, reading, left, rfl, fun _ => nothing⟩
  · have further : offset < stop := by omega
    rw [if_neg (Nat.not_le_of_lt further), Octets.toList_extract] at reading
    refine ⟨_, (w.content p).toList.drop stop, _, reading, ?_, ?_, ?_⟩
    · exact unread_eq_some_iff.mpr ⟨id, p, stop, appends, writes, opened,
        opening?_setChannel known _, rfl⟩
    · rw [← List.drop_append_of_le_length, List.take_append_drop]
      rw [List.length_take, Octets.length_toList]
      omega
    · intro empty
      have size := congrArg List.length empty
      rw [List.length_drop, List.length_take, Octets.length_toList, List.length_nil] at size
      omega

end World

def Machine.unread (m : Machine) : Option Bytes := m.world.unread shellPid 0

/-- The machine hands out the file that the shell's input is, from where it was read up to. -/
theorem Machine.feeds : (⟨Machine.read⟩ : Inlet Machine).Feeds Machine.unread := by
  intro most m text room left
  obtain ⟨b, rest, w, reading, later, split, dry⟩ := World.read?_of_unread room left
  have read : Inlet.read ⟨Machine.read⟩ most m = (b, m.setWorld w) := by
    simp only [Machine.read, reading]
  rw [read]
  exact ⟨rest, later, split, dry⟩

theorem Terminal.feeds : Terminal.inlet.Feeds fun t => t.machine.unread :=
  fun most t => Machine.feeds most t.machine

variable (files : Files) (searchPath? : Option Bytes) (forgets : Bool) (input : Bytes)

theorem Machine.node?_withInput :
    ((ofFiles files searchPath? forgets).withInput input).world.files.node? inputPlace =
      some (Node.ofBytes 0o644 input) := Files.node?_put _ _ (by decide) _

theorem Machine.unread_withInput :
    ((ofFiles files searchPath? forgets).withInput input).unread = some input := by
  refine World.unread_eq_some_iff.mpr ⟨0, inputPlace, 0, false, false, rfl, rfl, ?_⟩
  rw [World.content, node?_withInput, Octets.toList_eq]
  rfl

theorem Machine.inputSize_withInput :
    ((ofFiles files searchPath? forgets).withInput input).inputSize = input.length := by
  rw [inputSize, node?_withInput]
  exact List.size_toArray

/-- A shell that has not run anything yet reads the lines of its input. -/
theorem CommandLine.answers_typed {σ : Type} {lines : List String} {last : String}
    (plain : ∀ line ∈ last :: lines, '\n' ∉ line.toList) (filter : Log.Filter)
    (prompt : String) (n : Nat) (s : σ) :
    let m := (Machine.ofFiles files searchPath? forgets).withInput (Editor.typed lines last)
    (Editor.source Terminal.inlet Terminal.host.toOutlet false).answers prompt n
        (Editor.ofSize m.inputSize) (Terminal.start m filter) =
      (Recording.source σ).answers prompt n
        (Recording.ofLines (Editor.texts lines last) false) s := by
  intro m
  refine Editor.answers_typed Terminal.feeds _ prompt plain ?_ n s rfl rfl
  refine ⟨_, Machine.unread_withInput _ _ _ _, Nat.le_of_eq ?_, rfl⟩
  exact (Machine.inputSize_withInput _ _ _ _).symm

end SupervisedShell
