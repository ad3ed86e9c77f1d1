import Mathlib.Data.List.TakeWhile
import SupervisedShell.Editor
import SupervisedShell.Proofs.Text.Backspaces
import SupervisedShell.Proofs.Text.Decoding
import SupervisedShell.Proofs.Text.Encoding
/-!
Lines that are typed ahead. An inlet may hand its bytes out in pieces of any size; the lines that
are read are the same.
-/

set_option autoImplicit false

namespace SupervisedShell

variable {σ : Type}

/-- An inlet that hands out a text piece by piece, and nothing only behind its end. -/
def Inlet.Feeds (inlet : Inlet σ) (left : σ → Option Bytes) : Prop :=
  ∀ most s text, 0 < most → left s = some text →
    ∃ rest, left (inlet.read most s).2 = some rest ∧ text = (inlet.read most s).1 ++ rest ∧
      ((inlet.read most s).1 = [] → text = [])

namespace Editor

/-- Such bytes are still to come, those in the buffer first, and there is room for the others. -/
def Owes (left : σ → Option Bytes) (e : Editor) (s : σ) (bytes : Bytes) : Prop :=
  ∃ text, left s = some text ∧ text.length ≤ e.room ∧ e.buffer ++ text = bytes

variable {inlet : Inlet σ} {left : σ → Option Bytes} {e : Editor} {s : σ}
  {bytes line rest text : Bytes}

theorem chunk_of_feeds (feeds : inlet.Feeds left) (known : left s = some text)
    (room : text.length ≤ e.room) :
    ∃ rest, left (inlet.read chunkSize s).2 = some rest ∧ text = e.chunk inlet s ++ rest ∧
      (e.chunk inlet s = [] → text = []) := by
  obtain ⟨rest, later, split, dry⟩ := feeds chunkSize s text (by decide) known
  have whole : e.chunk inlet s = (inlet.read chunkSize s).1 := by
    refine List.take_of_length_le (Nat.le_trans ?_ room)
    rw [split, List.length_append]
    exact Nat.le_add_right _ _
  rw [whole]
  exact ⟨rest, later, split, dry⟩

theorem Owes.fill (feeds : inlet.Feeds left) (h : e.Owes left s bytes) :
    (Editor.fill inlet e s).1.Owes left (Editor.fill inlet e s).2 bytes ∧
      (lineFeed ∈ (Editor.fill inlet e s).1.buffer ∨
        (Editor.fill inlet e s).1.buffer = bytes) := by
  fun_induction Editor.fill inlet e s with
  | case1 e s ended => exact ⟨h, .inl (by simpa using ended)⟩
  | case2 e s unended dry =>
    obtain ⟨text, known, room, rfl⟩ := h
    obtain ⟨rest, later, split, empty⟩ := chunk_of_feeds feeds known room
    obtain rfl := empty dry
    obtain rfl : rest = [] := by simpa [dry] using split
    exact ⟨⟨[], later, room, rfl⟩, .inr (List.append_nil _).symm⟩
  | case3 e s unended more ih =>
    obtain ⟨text, known, room, rfl⟩ := h
    obtain ⟨rest, later, rfl, -⟩ := chunk_of_feeds feeds known room
    refine ih ⟨rest, later, ?_, List.append_assoc ..⟩
    rw [List.length_append] at room
    exact Nat.le_sub_of_add_le' room

theorem takeWhile_line (plain : lineFeed ∉ line) (rest : Bytes) :
    (line ++ lineFeed :: rest).takeWhile (· ≠ lineFeed) = line := by
  rw [List.takeWhile_append_of_pos]
  · simp
  · intro b known
    simpa using fun same : b = lineFeed => plain (same ▸ known)

theorem cut_line (plain : lineFeed ∉ line) (start : e.buffer = line ++ lineFeed :: rest) :
    e.cut = (some ⟨line, true⟩, { e with buffer := rest }) := by
  have front : e.front = line := by rw [Editor.front, start, takeWhile_line plain]
  simp [cut, front, start]

theorem cut_last (plain : lineFeed ∉ e.buffer) :
    e.cut = (if e.buffer = [] then none else some ⟨e.buffer, false⟩,
      { e with buffer := [] }) := by
  have front : e.front = e.buffer := by
    refine List.takeWhile_eq_self_iff.mpr fun b known => ?_
    simpa using fun same : b = lineFeed => plain (same ▸ known)
  simp [cut, front]

variable (out : Outlet σ) (prompt : String)

theorem read_eq (inlet : Inlet σ) (e : Editor) (s : σ) :
    read inlet out false prompt e s =
      (answer (fill inlet e s).1.cut.1, (fill inlet e s).1.cut.2, (fill inlet e s).2) := rfl

theorem read_line (feeds : inlet.Feeds left) (h : e.Owes left s (line ++ lineFeed :: rest))
    (plain : lineFeed ∉ line) :
    (read inlet out false prompt e s).1 = answer (some ⟨line, true⟩) ∧
      (read inlet out false prompt e s).2.1.Owes left (read inlet out false prompt e s).2.2
        rest := by
  obtain ⟨⟨text, known, room, split⟩, ended⟩ := h.fill feeds
  have ended : lineFeed ∈ (fill inlet e s).1.buffer := by
    rcases ended with ended | whole
    · exact ended
    · simp [whole]
  obtain ⟨front, behind, start, first⟩ := List.eq_append_cons_of_mem ended
  rw [start, List.append_assoc, List.cons_append] at split
  have front : front = line := by
    rw [← takeWhile_line first, split, takeWhile_line plain]
  subst front
  obtain ⟨-, rfl⟩ := List.cons.inj (List.append_cancel_left split)
  rw [read_eq, cut_line first start]
  exact ⟨rfl, text, known, room, rfl⟩

theorem read_last (feeds : inlet.Feeds left) (h : e.Owes left s bytes)
    (plain : lineFeed ∉ bytes) :
    (read inlet out false prompt e s).1 =
        answer (if bytes = [] then none else some ⟨bytes, false⟩) ∧
      (read inlet out false prompt e s).2.1.Owes left (read inlet out false prompt e s).2.2 [] := by
  obtain ⟨⟨text, known, room, split⟩, ended⟩ := h.fill feeds
  have whole : (fill inlet e s).1.buffer = bytes :=
    ended.resolve_left fun early => plain (split ▸ List.mem_append_left text early)
  obtain rfl : text = [] := by simpa [whole] using split
  rw [read_eq, cut_last (by rwa [whole]), whole]
  exact ⟨rfl, [], known, room, rfl⟩

theorem lineFeed_mem_encode_iff (s : String) : lineFeed ∈ Utf8.encode s ↔ '\n' ∈ s.toList :=
  Utf8.mem_encode_iff (by decide) (by decide) s

theorem answer_encode (text : String) (ended : Bool) :
    answer (some ⟨Utf8.encode text, ended⟩) =
      .ok (some (Text.withoutBackspaces (if ended then withoutReturn text else text))) := by
  have decoded : Utf8.decode? (Utf8.encode text) = some text := Utf8.decode?_eq_some_iff.mpr rfl
  simp [answer, RawLine.text?, decoded]

/-- Lines as they are typed, the last one without an end. -/
def typed (lines : List String) (last : String) : Bytes :=
  lines.flatMap (fun line => Utf8.encode line ++ [lineFeed]) ++ Utf8.encode last

/-- The texts that typed lines are read as. -/
def texts (lines : List String) (last : String) : List String :=
  lines.map (fun line => Text.withoutBackspaces (withoutReturn line)) ++
    if last = "" then [] else [Text.withoutBackspaces last]

theorem withoutReturn_of_plain {line : String} (plain : line.toList.getLast? ≠ some '\r') :
    withoutReturn line = line := by
  unfold withoutReturn
  split
  · next back => exact absurd (by rw [List.getLast?_eq_head?_reverse, back]; rfl) plain
  · rfl

theorem texts_of_plain {lines : List String} {last : String}
    (plain : ∀ line ∈ last :: lines, '\x08' ∉ line.toList)
    (ends : ∀ line ∈ lines, line.toList.getLast? ≠ some '\r') :
    texts lines last = lines ++ if last = "" then [] else [last] := by
  have kept (line : String) (known : line ∈ lines) :
      Text.withoutBackspaces (withoutReturn line) = line := by
    rw [withoutReturn_of_plain (ends line known),
      Text.withoutBackspaces_of_plain (plain line (List.mem_cons_of_mem _ known))]
  rw [texts, List.map_congr_left kept, List.map_id', 
    Text.withoutBackspaces_of_plain (plain last List.mem_cons_self)]

end Editor

/-- What a number of reads answer, one after the other. -/
def LineSource.answers {ι : Type} (source : LineSource ι σ) (prompt : String) :
    Nat → ι → σ → List (Except Failure (Option String))
  | 0, _, _ => []
  | n + 1, i, s =>
    let (a, i, s) := source.read prompt i s
    a :: source.answers prompt n i s

theorem Recording.read_cons {r : Recording} (prompt : String) {line : String} {lines : List String}
    (same : r.lines = line :: lines) :
    r.read prompt = (.ok (some line), ⟨lines, r.prompts ++ [prompt], r.failsAtEnd⟩) := by
  simp [Recording.read, same]

theorem Recording.read_nil {r : Recording} (prompt : String) (same : r.lines = [])
    (ends : r.failsAtEnd = false) :
    r.read prompt = (.ok none, ⟨[], r.prompts ++ [prompt], false⟩) := by
  simp [Recording.read, same, ends]

/-- Typed lines are read like recorded ones, however the inlet hands them out. -/
theorem Editor.answers_typed {τ : Type} {inlet : Inlet σ} {left : σ → Option Bytes}
    (feeds : inlet.Feeds left) (out : Outlet σ) (prompt : String) {lines : List String}
    {last : String} (plain : ∀ line ∈ last :: lines, '\n' ∉ line.toList) {e : Editor} {s : σ}
    (h : e.Owes left s (typed lines last)) (n : Nat) (t : τ) {r : Recording}
    (same : r.lines = texts lines last) (ends : r.failsAtEnd = false) :
    (Editor.source inlet out false).answers prompt n e s =
      (Recording.source τ).answers prompt n r t := by
  induction n generalizing lines last e s r with
  | zero => rfl
  | succ n ih =>
    cases lines with
    | cons line lines =>
      obtain ⟨apart, plain⟩ :
          '\n' ∉ line.toList ∧ ∀ line ∈ last :: lines, '\n' ∉ line.toList := by
        simp_all
      have whole : typed (line :: lines) last =
          Utf8.encode line ++ lineFeed :: typed lines last := by
        simp [typed]
      obtain ⟨answered, later⟩ := read_line out prompt feeds (whole ▸ h)
        ((lineFeed_mem_encode_iff line).not.mpr apart)
      have read := Recording.read_cons prompt same
      refine congrArg₂ List.cons ?_ (ih plain later ?_ ?_)
      · exact answered.trans ((answer_encode line true).trans (congrArg (·.1) read.symm))
      · exact congrArg (·.2.lines) read
      · exact (congrArg (·.2.failsAtEnd) read).trans ends
    | nil =>
      obtain ⟨answered, later⟩ := read_last out prompt feeds h
        ((lineFeed_mem_encode_iff last).not.mpr (plain last List.mem_cons_self))
      by_cases nothing : last = ""
      · subst nothing
        have read := Recording.read_nil prompt same ends
        refine congrArg₂ List.cons ?_ (ih plain later ?_ ?_)
        · exact answered.trans (congrArg (·.1) read.symm)
        · exact congrArg (·.2.lines) read
        · exact congrArg (·.2.failsAtEnd) read
      · have unended : typed [] last ≠ [] := (Utf8.encode_eq_nil_iff last).not.mpr nothing
        rw [texts, if_neg nothing] at same
        have read := Recording.read_cons prompt same
        have later : Owes left _ _ (typed [] "") := later
        refine congrArg₂ List.cons ?_ (ih (by simp) later ?_ ?_)
        · rw [if_neg unended] at answered
          exact answered.trans ((answer_encode last false).trans (congrArg (·.1) read.symm))
        · exact congrArg (·.2.lines) read
        · exact (congrArg (·.2.failsAtEnd) read).trans ends

end SupervisedShell
