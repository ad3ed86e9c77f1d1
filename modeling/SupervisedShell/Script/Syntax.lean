
set_option autoImplicit false

namespace SupervisedShell

namespace Script

/-- What a parameter in braces is asked for. A colon makes an empty value count as none. -/
inductive Form where
  | value
  | length
  | default (colon : Bool)
  | assign (colon : Bool)
  | alternative (colon : Bool)
  | demand (colon : Bool)
  | withoutPrefix (longest : Bool)
  | withoutSuffix (longest : Bool)
  | bad
  deriving DecidableEq, Repr

/-- How a redirection opens a file. -/
inductive Access where
  | read
  | write
  | clobber
  | append
  | readWrite
  deriving DecidableEq, Repr

end Script

mutual

/-- A piece of a word. Quotes take the meaning from the characters under them. -/
inductive Script.Piece where
  | char (c : Char) (quoted : Bool)
  | mark
  | parameter (name : String) (form : Script.Form) (word : List Script.Piece) (quoted : Bool)
  | command (body : Script) (quoted : Bool)
  | arithmetic (word : List Script.Piece) (quoted : Bool)

inductive Script.Redirect where
  | file (n : Nat) (access : Script.Access) (name : List Script.Piece)
  | duplicate (n : Nat) (source : List Script.Piece)
  | document (n id : Nat)

inductive Script where
  | nothing
  | command (line : Nat) (assigns words : List (List Script.Piece))
      (redirects : List Script.Redirect)
  | pipeline (background : Bool) (stages : List Script)
  | redirected (line : Nat) (body : Script) (redirects : List Script.Redirect)
  | background (line : Nat) (body : Script) (redirects : List Script.Redirect)
  | subshell (line : Nat) (body : Script) (redirects : List Script.Redirect)
  | both (first second : Script)
  | either (first second : Script)
  | seq (first second : Script)
  | negate (body : Script)
  | branch (test yes no : Script)
  | loop (until_ : Bool) (test body : Script)
  | each (line : Nat) (name : String) (words : List (List Script.Piece)) (body : Script)
  | choice (line : Nat) (word : List Script.Piece)
      (cases : List (List (List Script.Piece) × Script))
  | define (name : String) (body : Script)

end

namespace Script

instance : Inhabited Script := ⟨.nothing⟩

abbrev Word := List Piece

def Piece.plain? : Piece → Option Char
  | .char c false => some c
  | _ => none

def Word.plain? (w : Word) : Option String := (w.mapM Piece.plain?).map String.ofList

def isNameStart (c : Char) : Bool := c.isAlpha || c = '_'

def isNameChar (c : Char) : Bool := c.isAlphanum || c = '_'

def isName (s : String) : Bool :=
  match s.toList with
  | [] => false
  | c :: cs => isNameStart c && cs.all isNameChar

def specialNames : List String :=
  [".", ":", "break", "continue", "eval", "exec", "exit", "export", "local", "readonly", "return",
    "set", "shift", "times", "trap", "unset"]

def Word.assignment? (w : Word) : Option (String × Word) :=
  let name := w.takeWhile fun p => p.plain?.any isNameChar
  let text := String.ofList (name.filterMap Piece.plain?)
  match w.drop name.length with
  | .char '=' false :: value => if isName text then some (text, value) else none
  | _ => none

/-- A document that follows a line, in full. -/
structure Document where
  id : Nat
  word : Word

end Script

end SupervisedShell
