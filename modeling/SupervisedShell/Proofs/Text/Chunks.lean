import SupervisedShell.Capture
import SupervisedShell.Proofs.Text.Decoding

set_option autoImplicit false

namespace SupervisedShell.Capture

/-- Writes the chunks one by one: what each write reports with the contents behind it, and the
capture left. -/
def writes : List Bytes → Capture → List (Except IoError Nat × String) × Capture
  | [], c => ([], c)
  | chunk :: chunks, c =>
    let (report, c) := outlet.write chunk c
    let (reports, last) := writes chunks c
    ((report, c.contents) :: reports, last)

theorem write_eq (chunk : Bytes) (c : Capture) :
    outlet.write chunk c = (.ok chunk.length, ⟨c.bytes ++ chunk⟩) := rfl

theorem writes_eq (chunks : List Bytes) (c : Capture) : writes chunks c =
    (chunks.mapIdx fun i chunk =>
      (.ok chunk.length, Utf8.lossy (c.bytes ++ (chunks.take (i + 1)).flatten)),
      ⟨c.bytes ++ chunks.flatten⟩) := by
  induction chunks generalizing c with
  | nil => simp [writes]
  | cons chunk chunks ih =>
    rw [writes, write_eq]
    dsimp only
    rw [ih, List.mapIdx_cons]
    simp [contents]

/-- Each write takes its chunk as a whole, and behind it the reading of all bytes so far is shown.
Chunks of the same bytes end with the same contents, and the bytes of a text, however cut, end with
the text; before that they show what is there of it as a whole, and one replacement character if a
character is cut. -/
theorem contents_by_chunks (chunks : List Bytes) :
    (writes chunks empty).1 = chunks.mapIdx (fun i chunk =>
        (.ok chunk.length, Utf8.lossy (chunks.take (i + 1)).flatten)) ∧
      (writes chunks empty).2.contents = Utf8.lossy chunks.flatten ∧
      (∀ bytes text, Utf8.Reads bytes text ↔ text = (Utf8.lossy bytes).toList) ∧
      (∀ others : List Bytes, others.flatten = chunks.flatten →
        (writes others empty).2.contents = (writes chunks empty).2.contents) ∧
      ∀ text, chunks.flatten = Utf8.encode text → (writes chunks empty).2.contents = text ∧
        ∀ i, ∃ whole cut, whole <+: text.toList ∧
          (chunks.take i).flatten = Utf8.encode (.ofList whole) ++ cut ∧
          Utf8.lossy (chunks.take i).flatten =
            .ofList (whole ++ if cut = [] then [] else ['\uFFFD']) := by
  have last (chunks : List Bytes) : (writes chunks empty).2.contents =
      Utf8.lossy chunks.flatten := by
    rw [writes_eq]
    rfl
  refine ⟨?_, last chunks, fun bytes text => Utf8.reads_iff, fun others same => ?_,
    fun text whole => ⟨?_, ?_⟩⟩
  · rw [writes_eq]
    rfl
  · rw [last, last, same]
  · rw [last, whole, Utf8.lossy_encode]
  · intro i
    refine Utf8.lossy_of_prefix ?_
    rw [← whole]
    exact ⟨(chunks.drop i).flatten, by rw [← List.flatten_append, List.take_append_drop]⟩

/-- Two characters of three and of two bytes, cut inside both of them, with a chunk of no byte. -/
theorem contents_by_chunks_within_characters :
    let chunks : List Bytes := [[0xE2], [0x82, 0xAC, 0xC3], [], [0xA9]]
    let others : List Bytes := [[0xE2, 0x82], [0xAC, 0xC3, 0xA9]]
    others.flatten = chunks.flatten ∧ chunks.flatten = Utf8.encode "€é" ∧
      (writes chunks empty).1 =
        [(.ok 1, "\uFFFD"), (.ok 3, "€\uFFFD"), (.ok 0, "€\uFFFD"), (.ok 1, "€é")] ∧
      (writes others empty).2.contents = (writes chunks empty).2.contents ∧
      (writes chunks empty).2.contents = "€é" := by
  intro chunks others
  have same : others.flatten = chunks.flatten := by decide
  have whole : chunks.flatten = Utf8.encode "€é" := by decide
  obtain ⟨shown, -, -, alike, text⟩ := contents_by_chunks chunks
  refine ⟨same, whole, ?_, alike others same, (text "€é" whole).1⟩
  have first : Utf8.lossy [0xE2] = "\uFFFD" := by decide +kernel
  have second : Utf8.lossy [0xE2, 0x82, 0xAC, 0xC3] = "€\uFFFD" := by decide +kernel
  have last : Utf8.lossy [0xE2, 0x82, 0xAC, 0xC3, 0xA9] = "€é" := by decide +kernel
  rw [shown]
  simp [chunks, first, second, last]

end SupervisedShell.Capture
