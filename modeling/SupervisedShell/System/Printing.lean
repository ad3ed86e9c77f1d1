import SupervisedShell.System.Basic

set_option autoImplicit false

namespace SupervisedShell

/-- The texts that a line is put together from. The end of the line is printed with the last. -/
structure Line where
  front : List String
  last : String
  deriving DecidableEq, Repr

namespace Line

def ofTexts (texts : List String) : Line := ⟨texts, ""⟩

def ofText (text : String) : Line := ofTexts [text]

def blank : Line := ⟨[], ""⟩

def pieces (l : Line) : List String := l.front ++ [l.last ++ "\n"]

def text (l : Line) : String := String.join l.front ++ l.last

theorem join_pieces (l : Line) : String.join l.pieces = l.text ++ "\n" := by
  simp [pieces, text, String.append_assoc]

@[simp] theorem text_ofTexts (texts : List String) : (ofTexts texts).text = String.join texts :=
  String.append_empty

@[simp] theorem text_ofText (text : String) : (ofText text).text = text := by simp [ofText]

end Line

namespace Outlet

variable {σ : Type}

/-- Offers the bytes until all are taken. What was taken before a failure stays printed, and an
offer of which nothing is taken counts as one. -/
def writeAll (out : Outlet σ) : Bytes → σ → Except IoError Unit × σ
  | [], s => (.ok (), s)
  | b :: rest, s =>
    match out.write (b :: rest) s with
    | (.error e, s) => (.error e, s)
    | (.ok 0, s) => (.error .nothingWritten, s)
    | (.ok (n + 1), s) => out.writeAll (rest.drop n) s
termination_by bytes => bytes.length
decreasing_by
  rw [List.length_drop, List.length_cons]
  omega

def printAll (out : Outlet σ) : List String → σ → Except IoError Unit × σ
  | [], s => (.ok (), s)
  | piece :: rest, s =>
    match out.writeAll (Utf8.encode piece) s with
    | (.ok (), s) => out.printAll rest s
    | (.error e, s) => (.error e, s)

def printLine (out : Outlet σ) (l : Line) (s : σ) : Except IoError Unit × σ :=
  out.printAll l.pieces s

end Outlet

end SupervisedShell
