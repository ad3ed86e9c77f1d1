import SupervisedShell.LineSource
import SupervisedShell.Text.Cluster
/-!
Lines typed ahead, in a file or a pipe, which is read in large chunks. A line ends with a line feed,
before which one carriage return is dropped; a backspace takes away the cluster before it. The
prompt is not shown, unless the terminal is too simple for a line editor.
-/

set_option autoImplicit false

namespace SupervisedShell

/-- A reader of lines. -/
structure Editor where
  buffer : Bytes
  room : Nat
  deriving DecidableEq, Repr

namespace Editor

def ofSize (size : Nat) : Editor := ⟨[], size⟩

def left (e : Editor) : Nat := e.buffer.length + e.room

/-- A line as it stands in the input. -/
structure RawLine where
  bytes : Bytes
  ended : Bool
  deriving DecidableEq, Repr

def lineFeed : UInt8 := 0x0A

def chunkSize : Nat := 8192

def withoutReturn (line : String) : String :=
  match line.toList.reverse with
  | '\r' :: r => String.ofList r.reverse
  | _ => line

def RawLine.text? (l : RawLine) : Option String :=
  (Utf8.decode? l.bytes).map fun t =>
    Text.withoutBackspaces (if l.ended then withoutReturn t else t)

/-- The bytes before the first line feed, or all of them. -/
def front (e : Editor) : Bytes := e.buffer.takeWhile (· ≠ lineFeed)

/-- Takes the first line out of the buffer. Without an end it is the last one. -/
def cut (e : Editor) : Option RawLine × Editor :=
  match e.buffer.drop e.front.length with
  | _ :: rest => (some ⟨e.front, true⟩, { e with buffer := rest })
  | [] => (if e.buffer = [] then none else some ⟨e.front, false⟩, { e with buffer := [] })

theorem left_cut {e : Editor} {l : RawLine} (h : e.cut.1 = some l) : e.cut.2.left < e.left := by
  unfold cut at h ⊢
  split
  · rename_i heq
    have := congrArg List.length heq
    simp only [List.length_drop, List.length_cons] at this
    simp only [left]
    omega
  · rename_i heq
    simp only [heq] at h
    cases hb : e.buffer with
    | nil => simp [hb] at h
    | cons => simp [left, hb]

variable {σ : Type}

def chunk (inlet : Inlet σ) (e : Editor) (s : σ) : Bytes := (inlet.read chunkSize s).1.take e.room

theorem length_chunk_le (inlet : Inlet σ) (e : Editor) (s : σ) :
    (e.chunk inlet s).length ≤ e.room := List.length_take_le ..

/-- Reads on until the buffer holds the end of a line, or the input has ended. -/
def fill (inlet : Inlet σ) (e : Editor) (s : σ) : Editor × σ :=
  if e.buffer.contains lineFeed then (e, s)
  else if e.chunk inlet s = [] then (e, (inlet.read chunkSize s).2)
  else
    fill inlet ⟨e.buffer ++ e.chunk inlet s, e.room - (e.chunk inlet s).length⟩
      (inlet.read chunkSize s).2
termination_by e.room
decreasing_by
  have := e.length_chunk_le inlet s
  have : 0 < (e.chunk inlet s).length := List.length_pos_iff.2 (by assumption)
  show e.room - (e.chunk inlet s).length < e.room
  omega

theorem left_fill (inlet : Inlet σ) (e : Editor) (s : σ) : (e.fill inlet s).1.left = e.left := by
  fun_induction fill inlet e s with
  | case1 => rfl
  | case2 => rfl
  | case3 e s _ _ ih =>
    have := e.length_chunk_le inlet s
    rw [ih]
    simp only [left, List.length_append]
    omega

def showPrompt (out : Outlet σ) (prompt : String) (s : σ) : Except IoError Unit × σ :=
  match out.writeAll (Utf8.encode prompt) s with
  | (.ok (), s) => out.flush s
  | (.error e, s) => (.error e, s)

def answer : Option RawLine → Except Failure (Option String)
  | none => .ok none
  | some l =>
    match l.text? with
    | some t => .ok (some t)
    | none => .error (.editor .illFormedText)

def read (inlet : Inlet σ) (out : Outlet σ) (simple : Bool) (prompt : String)
    (e : Editor) (s : σ) :
    Except Failure (Option String) × Editor × σ :=
  match if simple then showPrompt out prompt s else (.ok (), s) with
  | (.error fault, s) => (.error (.editor fault), e, s)
  | (.ok (), s) =>
    let filled := e.fill inlet s
    (answer filled.1.cut.1, filled.1.cut.2, filled.2)

def source (inlet : Inlet σ) (out : Outlet σ) (simple : Bool) : LineSource Editor σ where
  read := read inlet out simple
  left := left
  left_lt prompt e s line h := by
    unfold read at h ⊢
    split
    · simp_all
    · rename_i s' heq
      simp only [heq] at h ⊢
      cases hc : (e.fill inlet s').1.cut.1 with
      | none => simp [hc, answer] at h
      | some l =>
        have := left_cut hc
        rwa [left_fill] at this

def simpleTerminals : List String := ["dumb", "cons25", "emacs"]

def isSimple (terminal? : Option String) : Bool :=
  terminal?.any fun t => simpleTerminals.contains t.toLower

end Editor

end SupervisedShell
