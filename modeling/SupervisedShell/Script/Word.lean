import SupervisedShell.Script.Source
/-!
How words are read: characters with and without quotes, parameters behind a dollar sign, and
commands and sums that stand for what they print or come to.
-/

set_option autoImplicit false

namespace SupervisedShell.Script.Reader

/-- Readers of commands within a word. -/
structure Nested where
  parenthesis : Reader Script
  text : List Char → Reader Script

/-- Readers for the words within words. -/
structure Deeper extends Nested where
  dollar : (quoted : Bool) → Reader Word

def single : (steps : Nat) → Word → Reader Word
  | 0, acc => return acc
  | n + 1, acc => do
    match ← raw with
    | none => fault "Unterminated quoted string"
    | some '\x27' => return acc
    | some c => single n (.char c true :: acc)

def escape (specials : List Char) (acc : Word) : Reader Word := do
  match ← raw with
  | none => return .char '\\' true :: acc
  | some c =>
    if specials.contains c then return .char c true :: acc
    else return .char c true :: .char '\\' true :: acc

def backquote : Char := '\x60'

def backquoted (specials : List Char) : (steps : Nat) → List Char → Reader (List Char)
  | 0, acc => return acc
  | n + 1, acc => do
    let c? ← peek
    match c? with
    | none => fault "EOF in backquote substitution"
    | some c =>
      let _ ← raw
      if c = backquote then return acc
      else if c = '\\' then
        match ← raw with
        | none => fault "EOF in backquote substitution"
        | some e =>
          if specials.contains e then backquoted specials n (e :: acc)
          else backquoted specials n (e :: '\\' :: acc)
      else backquoted specials n (c :: acc)

def substitution (d : Deeper) (quoted : Bool) : Reader Piece := do
  let specials := ['\\', '$', backquote] ++ (if quoted then ['"'] else [])
  let text ← backquoted specials (← steps) []
  return .command (← d.text text.reverse) quoted

def double (d : Deeper) : (steps : Nat) → Word → Reader Word
  | 0, acc => return acc
  | n + 1, acc => do
    match ← peek with
    | none => fault "Unterminated quoted string"
    | some c =>
      let _ ← raw
      if c = '"' then return acc
      else if c = '\\' then double d n (← escape ['\\', '$', '"', backquote] acc)
      else if c = '$' then double d n ((← d.dollar true).reverse ++ acc)
      else if c = backquote then double d n ((← substitution d true) :: acc)
      else double d n (.char c true :: acc)

/-- Goes on with a word outside of quotes, at a character with a meaning of its own. The flag tells
whether it was a quote. -/
def special? (d : Deeper) (c : Char) (acc : Word) : Option (Reader (Word × Bool)) :=
  if c = '\x27' then some do
    let _ ← raw
    return (.mark :: (← single (← steps) (.mark :: acc)), true)
  else if c = '"' then some do
    let _ ← raw
    return (.mark :: (← double d (← steps) (.mark :: acc)), true)
  else if c = '\\' then some do
    let _ ← raw
    return (.char ((← raw).getD '\\') true :: acc, true)
  else if c = '$' then some do
    let _ ← raw
    return ((← d.dollar false).reverse ++ acc, false)
  else if c = backquote then some do
    let _ ← raw
    return ((← substitution d false) :: acc, false)
  else none

def bracedPlain (d : Deeper) : (steps : Nat) → Word → Reader Word
  | 0, acc => return acc
  | n + 1, acc => do
    match ← peek with
    | none => fault "Missing '\x7d'"
    | some c =>
      if c = '\x7d' then
        skip
        return acc
      else
        match special? d c acc with
        | some act => bracedPlain d n (← act).1
        | none =>
          let _ ← raw
          bracedPlain d n (.char c false :: acc)

def bracedQuoted (d : Deeper) : (steps : Nat) → (between : Bool) → Word → Reader Word
  | 0, _, acc => return acc
  | n + 1, between, acc => do
    match ← peek with
    | none => fault "Unterminated quoted string"
    | some c =>
      let _ ← raw
      if c = '\x7d' && !between then return acc
      else if c = '"' then bracedQuoted d n (!between) acc
      else if c = '\\' then
        bracedQuoted d n between (← escape ['\\', '$', '"', '\x7d', backquote] acc)
      else if c = '$' then bracedQuoted d n between ((← d.dollar true).reverse ++ acc)
      else if c = backquote then bracedQuoted d n between ((← substitution d true) :: acc)
      else bracedQuoted d n between (.char c true :: acc)

def isSpecial (c : Char) : Bool := ['#', '?', '$', '!', '-', '*', '@'].contains c

def name? : Reader (Option String) := do
  match ← peek with
  | none => return none
  | some c =>
    let n ← steps
    if isNameStart c then return some (String.ofList (← takeWhile isNameChar n))
    else if c.isDigit then return some (String.ofList (← takeWhile Char.isDigit n))
    else if isSpecial c then
      skip
      return some (String.singleton c)
    else return none

/-- What is asked for behind a name, and whether a word follows it. A character without a meaning
here is dropped. -/
def form : Reader (Form × Bool) := do
  let colon ← takes ':'
  let c? ← peek
  skip
  match c? with
  | some '-' => return (.default colon, true)
  | some '=' => return (.assign colon, true)
  | some '+' => return (.alternative colon, true)
  | some '?' => return (.demand colon, true)
  | some '\x7d' => return (.value, colon)
  | some '%' => if colon then return (.bad, true) else return (.withoutSuffix (← takes '%'), true)
  | some '#' => if colon then return (.bad, true) else return (.withoutPrefix (← takes '#'), true)
  | _ => return (.bad, true)

/-- Takes a sign of length off the front, if it is one and not the number of parameters: a name has
to follow, or a single character. -/
def lengthSign : Reader Bool := do
  let s ← get
  if !(← takes '#') then return false
  match ← peek with
  | none =>
    set s
    return false
  | some c =>
    if c = '_' || c.isAlphanum then return true
    let inner ← get
    skip
    let closes := (← peek) = some '\x7d'
    if c ≠ '\x7d' && closes then
      set inner
      return true
    else
      set s
      return false

def braces (d : Deeper) (quoted : Bool) : Reader Piece := do
  let word (plain : Bool) : Reader Word := do
    let n ← steps
    return (← if plain then bracedPlain d n [] else bracedQuoted d n false []).reverse
  if ← lengthSign then
    match ← name? with
    | some name =>
      if ← takes '\x7d' then return .parameter name .length [] quoted
      else return .parameter name .bad (← word (!quoted)) quoted
    | none => do
      skip
      return .parameter "" .bad (← word (!quoted)) quoted
  else
    match ← name? with
    | none => do
      if (← peek) ≠ some '\x7d' then skip
      return .parameter "" .bad (← word (!quoted)) quoted
    | some name =>
      match ← form with
      | (f, false) => return .parameter name f [] quoted
      | (.withoutPrefix longest, _) =>
        return .parameter name (.withoutPrefix longest) (← word true) quoted
      | (.withoutSuffix longest, _) =>
        return .parameter name (.withoutSuffix longest) (← word true) quoted
      | (f, _) => return .parameter name f (← word (!quoted)) quoted

def sum (d : Deeper) : (steps : Nat) → (depth : Nat) → Word → Reader Word
  | 0, _, acc => return acc
  | n + 1, depth, acc => do
    match ← peek with
    | none => fault "Missing '))'"
    | some c =>
      let _ ← raw
      if c = '(' then sum d n (depth + 1) (.char c true :: acc)
      else if c = ')' then
        if 0 < depth then sum d n (depth - 1) (.char c true :: acc)
        else if ← takes ')' then return acc
        else sum d n 0 (.char c true :: acc)
      else if c = '\\' then sum d n depth (← escape ['\\', '$', backquote] acc)
      else if c = '$' then sum d n depth ((← d.dollar true).reverse ++ acc)
      else if c = backquote then sum d n depth ((← substitution d true) :: acc)
      else sum d n depth (.char c true :: acc)

def dollarWith (d : Deeper) (quoted : Bool) : Reader Word := do
  match ← peek with
  | none => return [.char '$' quoted]
  | some c =>
    if c = '(' then
      skip
      if ← takes '(' then return [.arithmetic (← sum d (← steps) 0 []).reverse quoted]
      else return [.command (← d.parenthesis) quoted]
    else if c = '\x7b' then
      skip
      return [← braces d quoted]
    else if isNameStart c then
      let name ← takeWhile isNameChar (← steps)
      return [.parameter (String.ofList name) .value [] quoted]
    else if c.isDigit || isSpecial c then
      skip
      return [.parameter (String.singleton c) .value [] quoted]
    else return [.char '$' quoted]

def dollar (nested : Nested) : (depth : Nat) → (quoted : Bool) → Reader Word
  | 0, _ => fault "Bad substitution"
  | n + 1, quoted => dollarWith { nested with dollar := dollar nested n } quoted

def deeper (depth : Nat) (nested : Nested) : Deeper := { nested with dollar := dollar nested depth }

def endsWord (c : Char) : Bool := [' ', '\t', '\n', ';', '&', '|', '(', ')', '<', '>'].contains c

def plain (d : Deeper) : (steps : Nat) → Word → (quoted : Bool) → Reader (Word × Bool)
  | 0, acc, quoted => return (acc.reverse, quoted)
  | n + 1, acc, quoted => do
    match ← peek with
    | none => return (acc.reverse, quoted)
    | some c =>
      if endsWord c then return (acc.reverse, quoted)
      else
        match special? d c acc with
        | some act =>
          let (acc, q) ← act
          plain d n acc (quoted || q)
        | none =>
          skip
          plain d n (.char c false :: acc) quoted

def documentEnds (a : Announced) : Reader Bool := do
  if a.stripsTabs then modify fun s => { s with rest := s.rest.dropWhile (· = '\t') }
  let s ← get
  if !s.rest.contains '\n' then await
  let delimiter := a.delimiter.toList
  if delimiter.isPrefixOf s.rest then
    match s.rest.drop delimiter.length with
    | [] =>
      set { s with rest := [] }
      return true
    | '\n' :: rest =>
      set { s with rest, line := s.line + 1 }
      return true
    | _ => return false
  else return false

def documentBody (d : Deeper) (a : Announced) :
    (steps : Nat) → (atStart : Bool) → Word → Reader Word
  | 0, _, acc => return acc
  | n + 1, atStart, acc => do
    if !a.literal then
      let _ ← peek
    let ends ← if atStart then documentEnds a else pure false
    if ends then return acc
    match (← get).rest.head? with
    | none => return acc
    | some c =>
      let _ ← raw
      if a.literal then documentBody d a n (c = '\n') (.char c true :: acc)
      else if c = '\\' then documentBody d a n false (← escape ['\\', '$', backquote] acc)
      else if c = '$' then documentBody d a n false ((← d.dollar true).reverse ++ acc)
      else if c = backquote then documentBody d a n false ((← substitution d true) :: acc)
      else documentBody d a n (c = '\n') (.char c true :: acc)

def readDocuments (d : Deeper) : Reader Unit := do
  let announced := (← get).announced
  modify fun s => { s with announced := [] }
  for a in announced do
    let word := (← documentBody d a (← steps) true []).reverse
    modify fun s => { s with documents := s.documents ++ [⟨a.id, word⟩] }

end SupervisedShell.Script.Reader
