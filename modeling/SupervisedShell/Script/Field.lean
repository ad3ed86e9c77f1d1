import SupervisedShell.Script.Pattern
import SupervisedShell.Machine.Files
import SupervisedShell.Text.Octets

set_option autoImplicit false

namespace SupervisedShell.Script

/-- A piece of an expanded word. -/
inductive Atom where
  | char (c : Char) (quoted separates : Bool)
  | value (s : String) (quoted separates : Bool)
  | mark
  | cut
  deriving DecidableEq, Repr

namespace Atom

def letters : Atom → List Letter
  | char c quoted _ => [(c, quoted)]
  | value s quoted _ => s.toList.map fun c => (c, quoted)
  | _ => []

def onto (s : String) : Atom → String
  | char c _ _ => s.push c
  | value t _ _ => s ++ t
  | _ => s

def text (as : List Atom) : String := as.foldl onto ""

def ofText (quoted separates : Bool) (s : String) : List Atom :=
  if s.isEmpty then [] else [value s quoted separates]

def isBlank (c : Char) : Bool := c = ' ' || c = '\t' || c = '\n'

/-- What the reading of fields has come to. All lists are in reverse. -/
structure Cutter where
  fields : List (List Atom)
  field : List Atom
  piece : List Char
  behindBlank : Bool

namespace Cutter

def start : Cutter := ⟨[], [], [], false⟩

def push (a : Atom) (x : Cutter) : Cutter := { x with field := a :: x.field, behindBlank := false }

def endPiece (x : Cutter) : Cutter :=
  if x.piece.isEmpty then x
  else { x with field := value (String.ofList x.piece.reverse) false true :: x.field, piece := [] }

def isEmpty (x : Cutter) : Bool := x.field.isEmpty && x.piece.isEmpty

def endField (behindBlank : Bool) (x : Cutter) : Cutter :=
  let x := x.endPiece
  ⟨x.field.reverse :: x.fields, [], [], behindBlank⟩

/-- Takes a character that may separate. Blanks only separate; any other separator ends a field,
be it empty. -/
def step (separators : List Char) (x : Cutter) (c : Char) : Cutter :=
  if !separators.contains c then { x with piece := c :: x.piece, behindBlank := false }
  else if isBlank c then if x.isEmpty then x else x.endField true
  else if x.isEmpty && x.behindBlank then { x with behindBlank := false }
  else x.endField false

def take (separators : List Char) (x : Cutter) (a : Atom) : Cutter :=
  match a with
  | cut => if x.isEmpty then { x with behindBlank := false } else x.endField false
  | char c _ true => (x.step separators c).endPiece
  | value s _ true => (s.toList.foldl (step separators) x).endPiece
  | a => x.push a

end Cutter

def fields (separators : List Char) (as : List Atom) : List (List Atom) :=
  let x := as.foldl (Cutter.take separators) .start
  (if x.isEmpty then x else x.endField false).fields.reverse

end Atom

namespace Glob

def components (ls : List Letter) : List (List Letter) := ls.splitOnP (·.1 = '/')

def letters (ls : List Letter) : String := String.ofList (ls.map (·.1))

def mayBeMagic (ls : List Letter) : Bool :=
  ls.any fun (c, quoted) => !quoted && (c = '*' || c = '?' || c = '[')

def namesIn (f : Files) (directory : Place) (path : String) (p : List Glob) : List String :=
  match f.walk directory (Octets.toBytes (if path.isEmpty then "." else path)) with
  | .ok (place, n) =>
    if n.isDirectory && n.permits .read then
      let names := [".", ".."] ++ (f.names place).map Octets.ofBytes
      names.filter fun name => (name.toList.head? ≠ some '.' || p.head? = some (char '.')) &&
        isMatch p name.toList
    else []
  | .error _ => []

/-- The paths that names between slashes stand for, behind a path that is there already. -/
def pathsFrom (f : Files) (directory : Place) : List (List Letter) → String → List String
  | [], path => [path]
  | c :: rest, path =>
    let behind := if rest.isEmpty then "" else "/"
    let p := ofWord c
    if p.any isMagic then
      (namesIn f directory path p).flatMap fun name =>
        pathsFrom f directory rest (path ++ name ++ behind)
    else pathsFrom f directory rest (path ++ plainText p ++ behind)

def isThere (f : Files) (directory : Place) (path : String) : Bool :=
  match f.locate directory (Octets.toBytes path) false with
  | .ok s => s.node?.isSome
  | .error _ => false

def paths (f : Files) (directory : Place) (ls : List Letter) : List String :=
  if mayBeMagic ls && (ofWord ls).any isMagic then
    match (pathsFrom f directory (components ls) "").filter (isThere f directory) with
    | [] => [letters ls]
    | found => found.mergeSort fun a b => a ≤ b
  else [letters ls]

end Glob

end SupervisedShell.Script
