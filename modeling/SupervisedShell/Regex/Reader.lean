import SupervisedShell.Regex.Syntax
import SupervisedShell.Text.Blank
/-!
Reading regular expressions as they are written. The first part that cannot be read is the fault.
-/

set_option autoImplicit false

namespace SupervisedShell.Regex

structure Source where
  rest : List Char
  pos : Nat
  spaced : Bool
  names : List (List Char × Span)
  groups : Nat
  deriving Repr

abbrev Read := StateT Source (Except Fault)

namespace Read

def fail {α : Type} (kind : FaultKind) (start stop : Nat) : Read α :=
  throw ⟨kind, ⟨start, stop⟩, none⟩

def failAlso {α : Type} (kind : FaultKind) (start stop : Nat) (also : Span) : Read α :=
  throw ⟨kind, ⟨start, stop⟩, some also⟩

def restore (saved : Source) : Read Unit := modify fun _ => saved

def peek : Read (Option Char) := return (← get).rest.head?

def pos : Read Nat := return (← get).pos

def spanFrom (start : Nat) : Read Span := return ⟨start, (← get).pos⟩

def atEnd : Read Bool := return (← get).rest.isEmpty

def advance (n : Nat) : Read Unit :=
  modify fun s => { s with rest := s.rest.drop n, pos := s.pos + min n s.rest.length }

def bump : Read Bool := do
  advance 1
  return !(← atEnd)

def spaceLength : (comment : Bool) → List Char → Nat
  | _, [] => 0
  | true, c :: rest => 1 + spaceLength (c ≠ '\n') rest
  | false, c :: rest =>
    if Text.isBlank c then 1 + spaceLength false rest
    else if c = '#' then 1 + spaceLength true rest
    else 0

def skipSpace : Read Unit := do
  let s ← get
  if s.spaced then advance (spaceLength false s.rest)

def bumpSpace : Read Bool := do
  let _ ← bump
  skipSpace
  return !(← atEnd)

def bumpIf (text : String) : Read Bool := do
  if text.toList.isPrefixOf (← get).rest then
    advance text.length
    return true
  return false

def peekSpace : Read (Option Char) := do
  let s ← get
  let behind := s.rest.drop 1
  return (behind.drop (if s.spaced then spaceLength false behind else 0)).head?

def span (p : Char → Bool) : Read (List Char) := do
  let taken := (← get).rest.takeWhile p
  advance taken.length
  return taken

def spacedSpan (p : Char → Bool) : Nat → Read (List Char)
  | 0 => return []
  | n + 1 => do
    match ← peek with
    | some c =>
      if p c then
        let _ ← bumpSpace
        return c :: (← spacedSpan p n)
      else return []
    | none => return []

end Read

open Read

def named? : String → Option CharSet
  | "alnum" => some (.ofRanges [(0x30, 0x39), (0x41, 0x5A), (0x61, 0x7A)])
  | "alpha" => some (.ofRanges [(0x41, 0x5A), (0x61, 0x7A)])
  | "ascii" => some (.ofRanges [(0, 0x7F)])
  | "blank" => some (.ofRanges [(0x9, 0x9), (0x20, 0x20)])
  | "cntrl" => some (.ofRanges [(0, 0x1F), (0x7F, 0x7F)])
  | "digit" => some (.ofRanges [(0x30, 0x39)])
  | "graph" => some (.ofRanges [(0x21, 0x7E)])
  | "lower" => some (.ofRanges [(0x61, 0x7A)])
  | "print" => some (.ofRanges [(0x20, 0x7E)])
  | "punct" => some (.ofRanges [(0x21, 0x2F), (0x3A, 0x40), (0x5B, 0x60), (0x7B, 0x7E)])
  | "space" => some (.ofRanges [(0x9, 0xD), (0x20, 0x20)])
  | "upper" => some (.ofRanges [(0x41, 0x5A)])
  | "word" => some (.ofRanges [(0x30, 0x39), (0x41, 0x5A), (0x5F, 0x5F), (0x61, 0x7A)])
  | "xdigit" => some (.ofRanges [(0x30, 0x39), (0x41, 0x46), (0x61, 0x66)])
  | _ => none

/-- What one step of reading gives, in a set or outside of it. -/
inductive Primitive where
  | letter (l : Letter)
  | place (span : Span) (p : Place)
  | perl (span : Span) (negated : Bool) (p : Perl)
  | property (span : Span) (negated : Bool) (q : Unicode.Query)
  deriving DecidableEq, Repr

def Primitive.term : Primitive → Term
  | .letter l => .letter l
  | .place s p => .place s p
  | .perl s n p => .perl s n p
  | .property s n q => .property s n q

def isMeta (c : Char) : Bool := "\\.+*?()|[]\x7b\x7d^$#&-~".toList.contains c

/-- Signs may be written with a backslash, whether they need it or not. -/
def isEscapable (c : Char) : Bool :=
  isMeta c || (c.toNat < 0x80 && !c.isAlphanum && c ≠ '<' && c ≠ '>')

def isHex (c : Char) : Bool := c.isDigit || ('a' ≤ c && c ≤ 'f') || ('A' ≤ c && c ≤ 'F')

def hexDigit (c : Char) : Nat :=
  if c.isDigit then c.toNat - 0x30 else if 'a' ≤ c then c.toNat - 0x57 else c.toNat - 0x37

def hexValue (ds : List Char) : Nat := ds.foldl (fun n d => n * 16 + hexDigit d) 0

def scalar? (n : Nat) : Option Char := if n.isValidChar then some (Char.ofNat n) else none

def readHexDigits : (first : Bool) → Nat → Read (List Char)
  | _, 0 => return []
  | first, n + 1 => do
    if !first then
      if !(← bumpSpace) then fail .escapeIncomplete (← pos) (← pos)
    match ← peek with
    | some c =>
      if isHex c then return c :: (← readHexDigits false n)
      else fail .hexDigit (← pos) ((← pos) + 1)
    | none => fail .escapeIncomplete (← pos) (← pos)

def readHexBrace (brace : Nat) : Nat → Read (List Char)
  | 0 => return []
  | n + 1 => do
    if !(← bumpSpace) then fail .escapeIncomplete brace (← pos)
    match ← peek with
    | some '}' | none => return []
    | some c =>
      if isHex c then return c :: (← readHexBrace brace n)
      else fail .hexDigit (← pos) ((← pos) + 1)

/-- A character by its number, behind the letter for the number of its digits; and whether it was
written without braces. -/
def readHex (width : Nat) : Read (Char × Bool) := do
  if !(← bumpSpace) then fail .escapeIncomplete (← pos) (← pos)
  if (← peek) = some '{' then
    let brace ← pos
    let ds ← readHexBrace brace (← get).rest.length
    let stop ← pos
    let _ ← bumpSpace
    if ds.isEmpty then fail .hexEmpty brace (← pos)
    match scalar? (hexValue ds) with
    | some c => return (c, false)
    | none => fail .hexNoScalar (brace + 1) stop
  else
    let start ← pos
    let ds ← readHexDigits true width
    let _ ← bumpSpace
    match scalar? (hexValue ds) with
    | some c => return (c, true)
    | none => fail .hexNoScalar start (← pos)

def readProperty : Read (List Char) := do
  if !(← bumpSpace) then fail .escapeIncomplete (← pos) (← pos)
  match ← peek with
  | some '{' =>
    let _ ← bumpSpace
    let name ← spacedSpan (· ≠ '}') (← get).rest.length
    if ← atEnd then fail .escapeIncomplete (← pos) (← pos)
    let _ ← bump
    return name
  | some '\\' => fail .propertyMalformed (← pos) ((← pos) + 1)
  | some c =>
    let _ ← bumpSpace
    return [c]
  | none => fail .escapeIncomplete (← pos) (← pos)

/-- A name that is not the value of a property, or the two beside the first sign between them. -/
def query (text : List Char) : Bool × Unicode.Query :=
  let beside (sign : List Char) : Option (List Char × List Char) :=
    (List.range text.length).findSome? fun i =>
      if sign.isPrefixOf (text.drop i) then some (text.take i, text.drop (i + sign.length))
        else none
  match beside ['!', '='], beside [':'], beside ['='] with
  | some (n, v), _, _ => (true, .valued n v)
  | none, some (n, v), _ | none, none, some (n, v) => (false, .valued n v)
  | none, none, none => (false, .named text)

def wordBoundary? : String → Option Place
  | "start" => some .wordStart
  | "end" => some .wordStop
  | "start-half" => some .halfStart
  | "end-half" => some .halfStop
  | _ => none

/-- What may stand between braces behind a word boundary. If it is a count, nothing is read. -/
def readBoundary (start : Nat) : Read (Option Place) := do
  let saved ← get
  if saved.rest.head? ≠ some '{' then return none
  let isLetter (c : Char) : Bool := c.isAlpha || c = '-'
  if !(← bumpSpace) then fail .boundaryOrCountUnclosed start (← pos)
  let contents ← pos
  if !(← peek).any isLetter then
    restore saved
    return none
  let name ← spacedSpan isLetter (← get).rest.length
  if (← peek) ≠ some '}' then fail .boundaryUnclosed saved.pos (← pos)
  let stop ← pos
  let _ ← bump
  match wordBoundary? (String.ofList name) with
  | some l => return some l
  | none => fail .boundaryUnknown contents stop

def special? : Char → Option Char
  | 'a' => some '\x07'
  | 'f' => some '\x0c'
  | 't' => some '\t'
  | 'n' => some '\n'
  | 'r' => some '\r'
  | 'v' => some '\x0b'
  | _ => none

def perl? : Char → Option Perl
  | 'd' | 'D' => some .digit
  | 's' | 'S' => some .space
  | 'w' | 'W' => some .word
  | _ => none

def readEscape : Read Primitive := do
  let start ← pos
  if !(← bump) then fail .escapeIncomplete start (← pos)
  let c := (← peek).getD '\\'
  let hex (width : Nat) : Read Primitive := do
    let (d, bare) ← readHex width
    return .letter ⟨d, bare && width = 2, ← spanFrom start⟩
  if c.isDigit then fail .backreference start ((← pos) + 1)
  else if c = 'x' then hex 2
  else if c = 'u' then hex 4
  else if c = 'U' then hex 8
  else if c = 'p' || c = 'P' then
    let (differs, q) := query (← readProperty)
    return .property (← spanFrom start) ((c = 'P') != differs) q
  else
    let _ ← bump
    let span ← spanFrom start
    if isEscapable c then return .letter ⟨c, false, span⟩
    match perl? c, special? c, c with
    | some p, _, _ => return .perl span c.isUpper p
    | none, some s, _ => return .letter ⟨s, false, span⟩
    | none, none, 'A' => return .place span .start
    | none, none, 'z' => return .place span .stop
    | none, none, 'b' =>
      let p ← readBoundary start
      return .place (← spanFrom start) (p.getD .boundary)
    | none, none, 'B' => return .place span .noBoundary
    | none, none, '<' => return .place span .wordStart
    | none, none, '>' => return .place span .wordStop
    | none, none, _ => fail .escapeUnknown start (← pos)

/-- One item of a set, before it is known whether it begins a range. -/
def readItem : Read Primitive := do
  match ← peek with
  | some '\\' => readEscape
  | some c =>
    let start ← pos
    let _ ← bump
    return .letter ⟨c, false, ← spanFrom start⟩
  | none => fail .classUnclosed (← pos) (← pos)

def readBound (p : Primitive) (start stop : Nat) : Read Letter :=
  match p with
  | .letter l => return l
  | _ => fail .classRangeBound start stop

/-- A letter, a range, or a set with a name. The span is that of the set around it. -/
def readRange (around : Span) : Read SetItem := do
  let start ← pos
  let first ← readItem
  let stop ← pos
  skipSpace
  if ← atEnd then fail .classUnclosed around.start around.stop
  let behind ← peekSpace
  if (← peek) ≠ some '-' || behind = some ']' || behind = some '-' then
    match first with
    | .letter l => return .letter l
    | .perl s n p => return .perl s n p
    | .property s n q => return .property s n q
    | .place _ _ => fail .classEscape start stop
  else
    if !(← bumpSpace) then fail .classUnclosed around.start around.stop
    let second ← pos
    let last ← readItem
    let lo ← readBound first start stop
    let hi ← readBound last second (← pos)
    if hi.c.toNat < lo.c.toNat then fail .classRange start (← pos)
    return .range lo hi

def readNamed : Read (Option SetItem) := do
  let saved ← get
  let giveUp : Read (Option SetItem) := do
    restore saved
    return none
  if !(← bumpIf "[:") then giveUp
  else
    let negated ← bumpIf "^"
    let name ← span (· ≠ ':')
    if !(← bumpIf ":]") then giveUp
    else
      match named? (String.ofList name) with
      | some s => return some (.named (← spanFrom saved.pos) negated s)
      | none => giveUp

def unionOf (here : Nat) : List SetTerm → SetTerm
  | [] => .nothing ⟨here, here⟩
  | [t] => t
  | last :: before =>
    let all := before.foldl (fun rest t => .also t rest) last
    .union all.span all

def signItem (c : Char) : Read SetTerm := do
  let start ← pos
  return .item (.letter ⟨c, false, ⟨start, start + 1⟩⟩)

def readHyphens (start : Nat) : Nat → List SetTerm → Read (List SetTerm)
  | 0, items => return items
  | n + 1, items => do
    if (← peek) = some '-' then
      let item ← signItem '-'
      if !(← bumpSpace) then fail .classUnclosed start start
      readHyphens start n (item :: items)
    else return items

/-- The beginning of a set: whether it is negated, and the signs that stand for themselves there. -/
def openSet : Read (Span × Bool × List SetTerm) := do
  let start ← pos
  if !(← bumpSpace) then fail .classUnclosed start (← pos)
  let negated := (← peek) = some '^'
  if negated then
    if !(← bumpSpace) then fail .classUnclosed start (← pos)
  let hyphens ← readHyphens start (← get).rest.length []
  if hyphens.isEmpty && (← peek) = some ']' then
    let item ← signItem ']'
    if !(← bumpSpace) then fail .classUnclosed start (← pos)
    return (⟨start, ← pos⟩, negated, [item])
  return (⟨start, ← pos⟩, negated, hyphens)

def setOperation? : Read (Option SetOperation) := do
  if ← bumpIf "&&" then return some .intersection
  if ← bumpIf "--" then return some .difference
  if ← bumpIf "~~" then return some .symmetricDifference
  return none

/-- Joins what stands before an operation, if anything does, with what stands behind it. -/
def operate (left? : Option (SetTerm × SetOperation)) (right : SetTerm) : SetTerm :=
  match left? with
  | some (left, op) => .operation ⟨left.span.start, right.span.stop⟩ op left right
  | none => right

mutual

def readSet : Nat → Read (Span × Bool × SetTerm)
  | 0 => fail .classUnclosed 0 0
  | n + 1 => do
    let start ← pos
    let (around, negated, first) ← openSet
    let body ← readItems n around none first
    return (← spanFrom start, negated, body)

/-- The items of a set up to its bracket, those so far in reverse, with what stands before the
last operation. -/
def readItems : Nat → Span → Option (SetTerm × SetOperation) → List SetTerm → Read SetTerm
  | 0, around, _, _ => fail .classUnclosed around.start around.stop
  | n + 1, around, left?, items => do
    skipSpace
    if ← atEnd then fail .classUnclosed around.start around.stop
    let here ← pos
    if (← peek) = some '[' then
      match ← readNamed with
      | some i => readItems n around left? (.item i :: items)
      | none =>
        let (span, negated, body) ← readSet n
        readItems n around left? (.brackets span negated body :: items)
    else if (← peek) = some ']' then
      let _ ← bump
      return operate left? (unionOf here items)
    else
      match ← setOperation? with
      | some op => readItems n around (some (operate left? (unionOf here items), op)) []
      | none => readItems n around left? (.item (← readRange around) :: items)

end

def isAlphabetic (c : Char) : Bool :=
  c.isAlpha || (0x80 ≤ c.toNat && Unicode.Binary.alphabetic.contains c)

def isNumeric (c : Char) : Bool :=
  c.isDigit || (0x80 ≤ c.toNat && (Unicode.Category.union Unicode.Category.numbers).contains c)

def isNameStart (c : Char) : Bool := c = '_' || isAlphabetic c

def isNameRest (c : Char) : Bool :=
  isNameStart c || isNumeric c || c = '.' || c = '[' || c = ']'

def readNameRest (start : Nat) : Nat → Read (List Char)
  | 0 => return []
  | n + 1 => do
    match ← peek with
    | none | some '>' => return []
    | some c =>
      if if (← pos) = start then isNameStart c else isNameRest c then
        let _ ← bump
        return c :: (← readNameRest start n)
      else fail .nameCharacter (← pos) ((← pos) + 1)

def readName : Read Unit := do
  let start ← pos
  let name ← readNameRest start (← get).rest.length
  let stop ← pos
  if ← atEnd then fail .nameUnclosed stop stop
  let _ ← bump
  if name.isEmpty then fail .nameEmpty start start
  let s ← get
  match s.names.find? (·.1 = name) with
  | some (_, other) => failAlso .nameDuplicate start stop other
  | none => restore { s with names := (name, ⟨start, stop⟩) :: s.names }

def isFlag (c : Char) : Bool := "imsUuRx".toList.contains c

def readFlags (seen : List (Char × Nat)) : Nat → Read Changes
  | 0 => return []
  | n + 1 => do
    let i ← pos
    match ← peek with
    | none => fail .flagMissing i i
    | some ':' | some ')' =>
      match seen with
      | ('-', j) :: _ => fail .flagDangling j (j + 1)
      | _ =>
        let order := (seen.map Prod.fst).reverse
        let (on, off) := (order.takeWhile (· ≠ '-'), order.dropWhile (· ≠ '-'))
        return on.map (·, true) ++ (off.drop 1).map (·, false)
    | some c =>
      if c ≠ '-' && !isFlag c then fail .flagUnknown i (i + 1)
      match seen.find? (·.1 = c) with
      | some (_, j) =>
        failAlso (if c = '-' then .flagRepeatedNegation else .flagDuplicate) i (i + 1)
          ⟨j, j + 1⟩
      | none =>
        if !(← bump) then fail .flagMissing (← pos) (← pos)
        readFlags ((c, i) :: seen) n

/-- What an opening parenthesis begins. -/
inductive Opening where
  | group (number? : Option Nat) (changes : Changes)
  | setting (changes : Changes)

def nextGroup : Read Opening := do
  let s ← get
  restore { s with groups := s.groups + 1 }
  return .group (some (s.groups + 1)) []

def readOpening : Read Opening := do
  let start ← pos
  let _ ← bump
  skipSpace
  for sign in ["?=", "?!", "?<=", "?<!"] do
    if ← bumpIf sign then fail .lookAround start (← pos)
  let inner ← pos
  let named ← bumpIf "?P<"
  let named ← if named then pure true else bumpIf "?<"
  if named then
    if ← atEnd then fail .nameUnclosed (← pos) (← pos)
    let opening ← nextGroup
    readName
    return opening
  else if ← bumpIf "?" then
    if ← atEnd then fail .groupUnclosed start (start + 1)
    let changes ← readFlags [] ((← get).rest.length + 1)
    let sign ← peek
    let _ ← bump
    if sign = some ')' then
      -- a bare negation is refused before, so that nothing set means nothing written
      if changes.isEmpty then fail .nothingToRepeat inner inner
      return .setting changes
    return .group none changes
  else nextGroup

def readDecimal (emptyKind : FaultKind) : Read (Except Fault Nat) := do
  let _ ← span Text.isBlank
  let start ← pos
  let ds ← spacedSpan Char.isDigit (← get).rest.length
  let stop ← pos
  let _ ← span Text.isBlank
  if ds.isEmpty then return .error ⟨emptyKind, ⟨start, stop⟩, none⟩
  let n := ds.foldl (fun n d => n * 10 + (d.toNat - 0x30)) 0
  return if n < 4294967296 then .ok n else .error ⟨.decimalInvalid, ⟨start, stop⟩, none⟩

def readCount : Read (Nat × Option Nat × Bool) := do
  let start ← pos
  let unclosed : Read Unit := do fail .countUnclosed start (← pos)
  if !(← bumpSpace) then unclosed
  let least ← readDecimal .countEmpty
  if ← atEnd then unclosed
  let bounds ←
    if (← peek) = some ',' then do
      if !(← bumpSpace) then unclosed
      if (← peek) ≠ some '}' then
        let least ← ofExcept least
        let most ← ofExcept (← readDecimal .countEmpty)
        pure (least, some most)
      else pure (← ofExcept least, none)
    else do
      let least ← ofExcept least
      pure (least, some least)
  if (← peek) ≠ some '}' then unclosed
  let isLazy ← if ← bumpSpace then bumpIf "?" else pure false
  if bounds.2.any (· < bounds.1) then fail .countRange start (← pos)
  return (bounds.1, bounds.2, !isLazy)

def readPrimitive (c : Char) : Read Term := do
  let start ← pos
  if c = '\\' then return (← readEscape).term
  let _ ← bump
  let span ← spanFrom start
  match c with
  | '.' => return .dot span
  | '^' => return .place span .lineStart
  | '$' => return .place span .lineStop
  | _ => return .letter ⟨c, false, span⟩

def sequenceOf (around : Span) : List Term → Term
  | [] => .empty around
  | [t] => t
  | last :: before => .sequence around (before.foldl (fun rest t => .also t rest) last)

def takeRepeated (parts : List Term) : Read (Term × List Term) := do
  match parts with
  | .empty _ :: _ | .setting _ _ :: _ | [] => fail .nothingToRepeat (← pos) (← pos)
  | t :: rest => return (t, rest)

def Changes.state? (cs : Changes) (flag : Char) : Option Bool :=
  (cs.find? (·.1 = flag)).map Prod.snd

def setSpaced (v : Bool) : Read Unit := modify fun s => { s with spaced := v }

mutual

def readAlternatives : Nat → Read Term
  | 0 => return .empty ⟨0, 0⟩
  | n + 1 => do
    let start ← pos
    let first ← readSequence n start []
    if (← peek) = some '|' then
      let _ ← bump
      let branches : Term := .or first (← readBranches n)
      return .alternatives (← spanFrom start) branches
    return first

def readBranches : Nat → Read Term
  | 0 => return .empty ⟨0, 0⟩
  | n + 1 => do
    let next ← readSequence n (← pos) []
    if (← peek) = some '|' then
      let _ ← bump
      return .or next (← readBranches n)
    return next

def readSequence : Nat → Nat → List Term → Read Term
  | 0, start, parts => return sequenceOf ⟨start, start⟩ parts
  | n + 1, start, parts => do
    skipSpace
    match ← peek with
    | none | some ')' | some '|' => return sequenceOf (← spanFrom start) parts
    | some '(' => readSequence n start ((← readGroup n) :: parts)
    | some '[' =>
      let (span, negated, body) ← readSet n
      readSequence n start (.set span negated body :: parts)
    | some '{' =>
      let (t, rest) ← takeRepeated parts
      let (least, most?, greedy) ← readCount
      let span ← spanFrom t.span.start
      readSequence n start (Term.repeated span least most? greedy t :: rest)
    | some c =>
      if c = '?' || c = '*' || c = '+' then
        let (t, rest) ← takeRepeated parts
        let isLazy ← if ← bump then bumpIf "?" else pure false
        let span ← spanFrom t.span.start
        let least := if c = '+' then 1 else 0
        let most? := if c = '?' then some 1 else none
        readSequence n start (Term.repeated span least most? (!isLazy) t :: rest)
      else readSequence n start ((← readPrimitive c) :: parts)

def readGroup : Nat → Read Term
  | 0 => return .empty ⟨0, 0⟩
  | n + 1 => do
    let start ← pos
    let outer := (← get).spaced
    match ← readOpening with
    | .setting changes =>
      setSpaced ((Changes.state? changes 'x').getD outer)
      return .setting (← spanFrom start) changes
    | .group number? changes =>
      setSpaced ((Changes.state? changes 'x').getD outer)
      let body ← readAlternatives n
      if ← atEnd then fail .groupUnclosed start (start + 1)
      let _ ← bump
      setSpaced outer
      return .group (← spanFrom start) number? changes body

end

def readWhole (n : Nat) : Read Term := do
  let t ← readAlternatives n
  if !(← atEnd) then fail .groupUnopened (← pos) ((← pos) + 1)
  return t

end Regex

def Regex.Term.ofText (text : String) : Except Regex.Fault Regex.Term :=
  let chars := text.toList
  ((Regex.readWhole (4 * chars.length + 8)).run ⟨chars, 0, false, [], 0⟩).map Prod.fst

end SupervisedShell
