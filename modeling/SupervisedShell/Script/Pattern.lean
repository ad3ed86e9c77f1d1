
set_option autoImplicit false

namespace SupervisedShell.Script

abbrev Letter := Char × Bool

/-- A member of a pair of brackets. -/
inductive Member where
  | between (lo hi : Char)
  | kind (name : String)
  deriving DecidableEq, Repr

namespace Member

def isGraphic (c : Char) : Bool := '!' ≤ c && c ≤ '~'

def kinds : List (String × (Char → Bool)) :=
  [("alnum", Char.isAlphanum), ("alpha", Char.isAlpha), ("blank", fun c => c = ' ' || c = '\t'),
    ("cntrl", fun c => c < ' ' || c = '\x7f'), ("digit", Char.isDigit), ("graph", isGraphic),
    ("lower", Char.isLower), ("print", fun c => c = ' ' || isGraphic c),
    ("punct", fun c => isGraphic c && !c.isAlphanum),
    ("space", fun c => c = ' ' || ('\t' ≤ c && c ≤ '\r')), ("upper", Char.isUpper),
    ("xdigit", fun c => c.isDigit || ('a' ≤ c && c ≤ 'f') || ('A' ≤ c && c ≤ 'F'))]

def holds (m : Member) (c : Char) : Bool :=
  match m with
  | .between lo hi => lo ≤ c && c ≤ hi
  | .kind name => (kinds.find? (·.1 = name)).any fun k => k.2 c

end Member

inductive Glob where
  | char (c : Char)
  | any
  | star
  | oneOf (negated : Bool) (members : List Member)
  deriving DecidableEq, Repr

namespace Glob

def meaningful : List Char := ['!', '*', '?', '[', '=', '~', ':', '/', '-', ']', '\\']

def written (ls : List Letter) : List Char :=
  ls.flatMap fun (c, quoted) => if quoted && meaningful.contains c then ['\\', c] else [c]

def kind? (s : List Char) : Option (String × List Char) :=
  let name := s.takeWhile Char.isAlpha
  let text := String.ofList name
  match s.drop name.length with
  | ':' :: ']' :: rest => if Member.kinds.any (·.1 = text) then some (text, rest) else none
  | _ => none

def between (lo : Char) : List Char → Member × List Char
  | '-' :: ']' :: rest => (.between lo lo, '-' :: ']' :: rest)
  | '-' :: '\\' :: hi :: rest => (.between lo hi, rest)
  | '-' :: hi :: rest => (.between lo hi, rest)
  | rest => (.between lo lo, rest)

def member? : List Char → Option (Member × List Char)
  | [] => none
  | '[' :: ':' :: rest =>
    match kind? rest with
    | some (name, behind) => some (.kind name, behind)
    | none => some (between '[' (':' :: rest))
  | ['\\'] => none
  | '\\' :: c :: rest => some (between c rest)
  | c :: rest => some (between c rest)

/-- The members up to the closing bracket, which may come first as a member of its own. -/
def members? :
    (characters : Nat) → (first : Bool) → List Char → Option (List Member × List Char)
  | 0, _, _ => none
  | n + 1, first, s =>
    if !first && s.head? = some ']' then some ([], s.tail)
    else
      match member? s with
      | some (m, rest) => (members? n false rest).map fun (ms, r) => (m :: ms, r)
      | none => none

def ofChars : (characters : Nat) → List Char → List Glob
  | 0, _ => []
  | _ + 1, [] => []
  | n + 1, '\\' :: c :: rest => char c :: ofChars n rest
  | n + 1, c :: rest =>
    if c = '*' then star :: ofChars n rest
    else if c = '?' then any :: ofChars n rest
    else if c = '[' then
      let (negated, inner) :=
        match rest with
        | '!' :: r => (true, r)
        | r => (false, r)
      match members? (inner.length + 1) true inner with
      | some (ms, r) => oneOf negated ms :: ofChars n r
      | none => char c :: ofChars n rest
    else char c :: ofChars n rest

def ofWord (ls : List Letter) : List Glob :=
  let s := written ls
  ofChars s.length s

def plainText (p : List Glob) : String :=
  String.ofList (p.filterMap fun
    | char c => some c
    | _ => none)

def isMagic : Glob → Bool
  | char _ => false
  | _ => true

def fits (g : Glob) (c : Char) : Bool :=
  match g with
  | char d => c = d
  | any | star => true
  | oneOf negated ms => ms.any (·.holds c) != negated

/-- Which elements of a pattern can be next, with its end as the last one, at the front of a text.
Nothing may stand for a star. -/
def start : (reached : Bool) → List Glob → List Bool
  | reached, [] => [reached]
  | reached, star :: p => reached :: start reached p
  | reached, _ :: p => reached :: start false p

def step (c : Char) : (reached : Bool) → List Glob → List Bool → List Bool
  | reached, star :: p, b :: bs => (reached || b) :: step c (reached || b) p bs
  | reached, g :: p, b :: bs => reached :: step c (b && g.fits c) p bs
  | reached, _, _ => [reached]

def isThrough (reached : List Bool) : Bool := reached.getLastD false

def isMatch (p : List Glob) (t : List Char) : Bool :=
  isThrough (t.foldl (fun bs c => step c false p bs) (start true p))

def divider : Char := '\x00'

def firstValue (t : List Char) : List Char := t.takeWhile (· ≠ divider)

def note (n : Nat) (reached : List Bool) (found : List Nat) : List Nat :=
  if isThrough reached then n :: found else found

/-- Goes on by a character. A pattern may begin once more where a value does. -/
def goOn (p : List Glob) :
    Nat × List Bool × List Nat → Char → Nat × List Bool × List Nat
  | (n, reached, found), c =>
    let reached := if c = divider then start true p else step c false p reached
    (n + 1, reached, note (n + 1) reached found)

/-- Where what a pattern stands for comes to an end, when it begins where a value does: the places
of a text, with the furthest one first. -/
def ends (p : List Glob) (t : List Char) : List Nat :=
  (t.foldl (goOn p) (0, start true p, note 0 (start true p) [])).2.2

/-- The text without the shortest or longest beginning that the pattern stands for. The pattern sees
one value, and who takes the whole of it takes the others too. -/
def withoutPrefix (p : List Glob) (longest : Bool) (t : List Char) : List Char :=
  let value := firstValue t
  let found := ends p value
  if longest then
    match found.head? with
    | some n => if n = value.length then [] else t.drop n
    | none => t
  else
    match found.getLast? with
    | some n => t.drop n
    | none => t

/-- The text without the shortest or longest end that the pattern stands for. It is found in the
last value that has one if it is the shortest, and in the first value if it is the longest, with all
that comes behind. -/
def withoutSuffix (p : List Glob) (longest : Bool) (t : List Char) : List Char :=
  if longest then
    let value := firstValue t
    match (ends p.reverse value.reverse).head? with
    | some n => t.take (value.length - n)
    | none => t
  else
    match (ends p.reverse t.reverse).getLast? with
    | some n => t.take (t.length - n)
    | none => t

end Glob

end SupervisedShell.Script
