import SupervisedShell.Script.Syntax
/-!
The text of a script on its way to commands: the characters still to come, the line that they stand
on, a token that was looked at too early, and the documents that a line has announced.
-/

set_option autoImplicit false

namespace SupervisedShell.Script

inductive Keyword where
  | not
  | case
  | do
  | done
  | elif
  | else
  | esac
  | fi
  | for
  | if
  | in
  | then
  | until
  | while
  | opening
  | closing
  deriving DecidableEq, Repr

namespace Keyword

def all : List Keyword :=
  [.not, .case, .do, .done, .elif, .else, .esac, .fi, .for, .if, .in, .then, .until,
    .while, .opening, .closing]

def text : Keyword → String
  | .not => "!"
  | .case => "case"
  | .do => "do"
  | .done => "done"
  | .elif => "elif"
  | .else => "else"
  | .esac => "esac"
  | .fi => "fi"
  | .for => "for"
  | .if => "if"
  | .in => "in"
  | .then => "then"
  | .until => "until"
  | .while => "while"
  | .opening => "\x7b"
  | .closing => "\x7d"

def ofText? (s : String) : Option Keyword := all.find? (·.text = s)

end Keyword

inductive Punctuation where
  | newline
  | semicolon
  | background
  | both
  | either
  | pipe
  | open
  | close
  | endCase
  deriving DecidableEq, Repr

def Punctuation.text : Punctuation → String
  | .newline => "newline"
  | .semicolon => "\";\""
  | .background => "\"&\""
  | .both => "\"&&\""
  | .either => "\"||\""
  | .pipe => "\"|\""
  | .open => "\"(\""
  | .close => "\")\""
  | .endCase => "\";;\""

/-- The sign of a redirection, before its word. -/
inductive Arrow where
  | file (n : Nat) (access : Access)
  | duplicate (n : Nat)
  | document (n : Nat) (stripsTabs : Bool)
  deriving DecidableEq, Repr

inductive Token where
  | end
  | mark (p : Punctuation)
  | keyword (k : Keyword)
  | arrow (a : Arrow)
  | word (w : Word) (quoted : Bool)

def Token.text : Token → String
  | .end => "end of file"
  | .mark p => p.text
  | .keyword k => s!"\"{k.text}\""
  | .arrow _ => "redirection"
  | .word .. => "word"

/-- A document that was announced: its text ends before a line like this. -/
structure Announced where
  id : Nat
  delimiter : String
  literal : Bool
  stripsTabs : Bool

structure Source where
  rest : List Char
  continues : Bool
  bound : Nat
  line : Nat
  pushed? : Option Token
  announced : List Announced
  documents : List Document
  nextDocument : Nat
  aliases : List (String × String)
  unfolding : List (String × Nat)
  blankEnds : List Nat

/-- Why no script comes of a text. -/
inductive Fault where
  | open_
  | unfit (line : Nat) (message : String) (left : Nat)

abbrev Reader (α : Type) := StateT Source (Except Fault) α

namespace Reader

def fault {α : Type} (message : String) : Reader α := do
  let s ← get
  throw (.unfit s.line message s.rest.length)

def unexpected {α : Type} (t : Token) (expected? : Option Token) : Reader α :=
  let wanted := expected?.elim "" fun e => s!" (expecting {e.text})"
  fault s!"{t.text} unexpected{wanted}"

def joined : (letters : List Char) → (line : Nat) → List Char × Nat
  | '\\' :: '\n' :: rest, line => joined rest (line + 1)
  | rest, line => (rest, line)

def await : Reader Unit := do
  if (← get).continues then throw .open_

/-- The next character, if there is one. Lines that are split by a backslash are joined first. -/
def peek : Reader (Option Char) := do
  let s ← get
  match joined s.rest s.line with
  | (rest, line) => do
    set { s with rest, line }
    match rest with
    | [] => do
      await
      return none
    | c :: behind => do
      if c = '\\' && behind.isEmpty then await
      return some c

def skip : Reader Unit := modify fun s => { s with rest := s.rest.tail }

def skipLine : Reader Unit := modify fun s => { s with rest := s.rest.tail, line := s.line + 1 }

def raw : Reader (Option Char) := do
  match (← get).rest with
  | [] => do
    await
    return none
  | c :: _ => do
    if c = '\n' then skipLine else skip
    return some c

def takes (c : Char) : Reader Bool := do
  if (← peek) = some c then do skip; return true
  else return false

/-- The longest run of characters of a kind, so many at most. Those before it are in reverse. -/
def takeOnto (p : Char → Bool) (acc : List Char) : (most : Nat) → Reader (List Char)
  | 0 => return acc.reverse
  | n + 1 => do
    match ← peek with
    | some c => if p c then do skip; takeOnto p (c :: acc) n else return acc.reverse
    | none => return acc.reverse

def takeWhile (p : Char → Bool) (most : Nat) : Reader (List Char) := takeOnto p [] most

/-- As many steps as there may be characters, one for a token that was read already,
and one more. -/
def steps : Reader Nat := do return (← get).bound + 2

def pushBack (t : Token) : Reader Unit := modify fun s => { s with pushed? := some t }

end Reader

end SupervisedShell.Script
