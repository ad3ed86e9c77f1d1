import SupervisedShell.Script.Word
/-!
How commands are read: tokens first, then what they form. A text is read one line at a time, where a
compound command may make a line reach over several.
-/

set_option autoImplicit false

namespace SupervisedShell.Script.Reader

def comment : Reader Unit := modify fun s => { s with rest := s.rest.dropWhile (· ≠ '\n') }

def doubled (c : Char) (one two : Punctuation) : Reader Token := do
  skip
  return .mark (if ← takes c then two else one)

def arrow (n? : Option Nat) : Reader Token := do
  if ← takes '<' then
    let n := n?.getD 0
    if ← takes '<' then return .arrow (.document n (← takes '-'))
    else if ← takes '&' then return .arrow (.duplicate n)
    else if ← takes '>' then return .arrow (.file n .readWrite)
    else return .arrow (.file n .read)
  else
    skip
    let n := n?.getD 1
    if ← takes '>' then return .arrow (.file n .append)
    else if ← takes '|' then return .arrow (.file n .clobber)
    else if ← takes '&' then return .arrow (.duplicate n)
    else return .arrow (.file n .write)

def wordOrArrow (d : Deeper) : Reader Token := do
  let (w, quoted) ← plain d (← steps) [] false
  let c? ← peek
  if c? = some '<' || c? = some '>' then
    match w, quoted with
    | [], false => arrow none
    | [.char c false], false =>
      if c.isDigit then arrow (some (c.toNat - '0'.toNat)) else return .word w quoted
    | _, _ => return .word w quoted
  else return .word w quoted

def fresh (d : Deeper) : (steps : Nat) → Reader Token
  | 0 => return .end
  | n + 1 => do
    match ← peek with
    | none => return .end
    | some ' ' | some '\t' => do skip; fresh d n
    | some '#' => do comment; fresh d n
    | some '\n' => do skipLine; return .mark .newline
    | some '&' => doubled '&' .background .both
    | some '|' => doubled '|' .pipe .either
    | some ';' => doubled ';' .semicolon .endCase
    | some '(' => do skip; return .mark .open
    | some ')' => do skip; return .mark .close
    | some _ => wordOrArrow d

def next (d : Deeper) : Reader Token := do
  match (← get).pushed? with
  | some t => do
    modify fun s => { s with pushed? := none }
    return t
  | none => fresh d (← steps)

def nextFilled (d : Deeper) : (steps : Nat) → Reader Token
  | 0 => return .end
  | n + 1 => do
    match ← next d with
    | .mark .newline => do readDocuments d; nextFilled d n
    | t => return t

/-- What a place in the grammar makes of words and line feeds. -/
structure Place where
  skipsLines : Bool
  keywords : Bool
  aliases : Bool

namespace Place

def command : Place := ⟨true, true, true⟩

def sameLine : Place := ⟨false, true, true⟩

def argument : Place := ⟨false, false, false⟩

end Place

def alias? (name : String) : Reader (Option String) := do
  let s ← get
  match s.aliases.find? (·.1 = name) with
  | none => return none
  | some (_, text) =>
    let left := s.rest.length
    return if s.unfolding.any fun (n, from_) => n = name && from_ ≤ left then none else some text

/-- Puts the text of an alias in front. A blank at its end lets the next word be an alias too. -/
def unfold (name text : String) : Reader Unit :=
  modify fun s =>
    let blank : Bool := (text.toList.getLast?).any fun c => c = ' ' || c = '\t'
    { s with
      rest := text.toList ++ s.rest
      bound := s.bound + text.length
      unfolding := (name, s.rest.length) :: s.unfolding
      blankEnds := if blank then s.rest.length :: s.blankEnds else s.blankEnds }

def mark : Reader Nat := do
  let s ← get
  return if s.blankEnds.isEmpty then 0 else s.rest.length

def passedBlankEnd (before : Nat) : Reader Bool := do
  let s ← get
  if s.blankEnds.isEmpty then return false
  let after := s.rest.length
  set { s with blankEnds := s.blankEnds.filter (· ≤ after) }
  return s.blankEnds.any fun e => after < e && e ≤ before

def token (d : Deeper) (p : Place) : (unfoldings : Nat) → Reader Token
  | 0 => return .end
  | n + 1 => do
    let before ← mark
    let t ← if p.skipsLines then nextFilled d (← steps) else next d
    let behindBlank ← passedBlankEnd before
    match t with
    | .word w false =>
      match w.plain? with
      | none => return t
      | some s =>
        match if p.keywords then Keyword.ofText? s else none with
        | some k => return .keyword k
        | none => do
          let text? ← if p.aliases || behindBlank then alias? s else pure none
          match text? with
          | none => return t
          | some text => do
            unfold s text
            token d p n
    | _ => return t

def mostUnfoldings : Nat := 1000

/-- What a list of commands does at its ends. -/
inductive Extent where
  | filled
  | any
  | line
  deriving DecidableEq, Repr

/-- Readers of the commands within commands, which may go so deep. -/
structure Inner where
  depth : Nat
  list : Extent → Reader Script
  command : Reader Script

namespace Inner

def parenthesis (g : Inner) (close : Reader Token) : Reader Script := do
  let announced := (← get).announced
  modify fun s => { s with announced := [] }
  let body ← g.list .any
  match ← close with
  | .mark .close =>
    modify fun s => { s with announced }
    return body
  | t => unexpected t (some (.mark .close))

def text (g : Inner) (cs : List Char) : Reader Script := do
  let s ← get
  let inner : Source :=
    { s with
      rest := cs, continues := false, line := 1, pushed? := none, announced := [], blankEnds := [] }
  match (g.list .any).run inner with
  | .ok (body, t) => do
    set { s with
      pushed? := none, documents := t.documents, nextDocument := t.nextDocument, unfolding :=
        t.unfolding
      bound := t.bound }
    return body
  | .error (.unfit line message _) => throw (.unfit line message s.rest.length)
  | .error .open_ => throw .open_

def deeper (g : Inner) : Deeper :=
  let close (nested : Nested) : Reader Token :=
    token (Reader.deeper g.depth nested) .argument mostUnfoldings
  let nested : Nested := ⟨g.parenthesis (close ⟨g.list .any, g.text⟩), g.text⟩
  Reader.deeper g.depth nested

def token (g : Inner) (p : Place) : Reader Token := Reader.token g.deeper p mostUnfoldings

end Inner

def redirect (g : Inner) (a : Arrow) : Reader Redirect := do
  match ← g.token .argument with
  | .word w quoted =>
    match a with
    | .file n access => return .file n access w
    | .duplicate n => return .duplicate n w
    | .document n stripsTabs =>
      let letters := w.filterMap fun
        | .char c _ => some c
        | _ => none
      let s ← get
      let a : Announced := ⟨s.nextDocument, String.ofList letters, quoted, stripsTabs⟩
      set { s with nextDocument := s.nextDocument + 1, announced := s.announced ++ [a] }
      return .document n a.id
  | t => unexpected t none

def redirects (g : Inner) : (steps : Nat) → Reader (List Redirect)
  | 0 => return []
  | n + 1 => do
    match ← g.token .sameLine with
    | .arrow a => return (← redirect g a) :: (← redirects g n)
    | t => do
      pushBack t
      return []

def expect (g : Inner) (p : Place) (wanted : Token) (holds : Token → Bool) : Reader Unit := do
  let t ← g.token p
  if !holds t then unexpected t (some wanted)

def expectKeyword (g : Inner) (p : Place) (k : Keyword) : Reader Unit :=
  expect g p (.keyword k) fun
    | .keyword l => k = l
    | _ => false

def branches (g : Inner) : (steps : Nat) → Reader Script
  | 0 => fault "end of file unexpected"
  | n + 1 => do
    let test ← g.list .filled
    expectKeyword g .argument .then
    let yes ← g.list .filled
    match ← g.token .argument with
    | .keyword .elif => return .branch test yes (← branches g n)
    | .keyword .else => do
      let no ← g.list .filled
      expectKeyword g .argument .fi
      return .branch test yes no
    | .keyword .fi => return .branch test yes .nothing
    | t => unexpected t (some (.keyword .fi))

def words (g : Inner) : (steps : Nat) → Reader (List Word × Token)
  | 0 => return ([], .end)
  | n + 1 => do
    match ← g.token .argument with
    | .word w _ => do
      let (ws, t) ← words g n
      return (w :: ws, t)
    | t => return ([], t)

def each (g : Inner) (line : Nat) : Reader Script := do
  let name ←
    match ← g.token .argument with
    | .word w false =>
      match w.plain? with
      | some s => if isName s then pure s else fault "Bad for loop variable"
      | none => fault "Bad for loop variable"
    | _ => fault "Bad for loop variable"
  let ws ←
    match ← g.token .command with
    | .keyword .in => do
      match ← words g (← steps) with
      | (ws, .mark .newline) | (ws, .mark .semicolon) => pure ws
      | (_, t) => unexpected t none
    | .mark .semicolon => pure [[.parameter "@" .value [] true]]
    | t => do
      pushBack t
      pure [[.parameter "@" .value [] true]]
  expectKeyword g .command .do
  let body ← g.list .filled
  expectKeyword g .argument .done
  return .each line name ws body

/-- Patterns between bars, up to the parenthesis. The first token was read already. -/
def patterns (g : Inner) : (steps : Nat) → Token → Reader (List Word)
  | 0, _ => return []
  | n + 1, t => do
    let w : Word :=
      match t with
      | .word w _ => w
      | .keyword k => k.text.toList.map (.char · false)
      | _ => []
    match ← g.token .argument with
    | .mark .pipe => return w :: (← patterns g n (← g.token .argument))
    | .mark .close => return [w]
    | t => unexpected t (some (.mark .close))

def cases (g : Inner) : (steps : Nat) → Reader (List (List Word × Script))
  | 0 => return []
  | n + 1 => do
    match ← g.token ⟨true, true, false⟩ with
    | .keyword .esac => return []
    | t => do
      let first ←
        match t with
        | .mark .open => g.token .argument
        | t => pure t
      let ws ← patterns g (← steps) first
      let body ← g.list .any
      match ← g.token ⟨true, true, false⟩ with
      | .keyword .esac => return [(ws, body)]
      | .mark .endCase => return (ws, body) :: (← cases g n)
      | t => unexpected t (some (.mark .endCase))

def choice (g : Inner) (line : Nat) : Reader Script := do
  match ← g.token .argument with
  | .word w _ => do
    expectKeyword g .command .in
    return .choice line w (← cases g (← steps))
  | t => unexpected t (some (.word [] false))

/-- A simple command in the making, its parts in reverse. -/
structure Simple where
  line : Nat
  assigns : List Word
  words : List Word
  redirects : List Redirect

def Simple.name? (x : Simple) : Option Word :=
  match x.assigns, x.words, x.redirects with
  | [], [w], [] => some w
  | _, _, _ => none

def function (g : Inner) (w : Word) : Reader Script := do
  expect g .argument (.mark .close) fun
    | .mark .close => true
    | _ => false
  let name := w.plain?.getD ""
  if !isName name || specialNames.contains name then fault "Bad function name"
  else return .define name (← g.command)

def simple (g : Inner) : (steps : Nat) → Simple → Reader Script
  | 0, _ => return .nothing
  | n + 1, x => do
    let finished (t : Token) : Reader Script := do
      pushBack t
      return .command x.line x.assigns.reverse x.words.reverse x.redirects.reverse
    match ← g.token ⟨false, false, x.words.isEmpty⟩ with
    | .word w _ =>
      if x.words.isEmpty && w.assignment?.isSome then
        simple g n { x with assigns := w :: x.assigns }
      else simple g n { x with words := w :: x.words }
    | .arrow a => do
      let r ← redirect g a
      simple g n { x with redirects := r :: x.redirects }
    | .mark .open =>
      match x.name? with
      | some w => function g w
      | none => finished (.mark .open)
    | t => finished t

/-- A compound command up to its last word, or nothing if the token does not begin one. -/
def compound? (g : Inner) (line : Nat) : Token → Option (Reader Script)
  | .keyword .if => some do branches g (← steps)
  | .keyword .while => some (loop false)
  | .keyword .until => some (loop true)
  | .keyword .for => some (each g line)
  | .keyword .case => some (choice g line)
  | .mark .open => some do
    let body ← g.list .filled
    expect g .argument (.mark .close) fun
      | .mark .close => true
      | _ => false
    return .subshell line body []
  | .keyword .opening => some do
    let body ← g.list .filled
    expectKeyword g .argument .closing
    return body
  | _ => none
where
  loop (until_ : Bool) : Reader Script := do
    let test ← g.list .filled
    expectKeyword g .argument .do
    let body ← g.list .filled
    expectKeyword g .argument .done
    return .loop until_ test body

def commandAt (g : Inner) (p : Place) : Reader Script := do
  let line := (← get).line
  let t ← g.token p
  match compound? g line t with
  | some act => do
    let body ← act
    match ← redirects g (← steps), body with
    | [], body => return body
    | rs, .subshell line body _ => return .subshell line body rs
    | rs, body => return .redirected line body rs
  | none =>
    match t with
    | .word .. | .arrow _ => do
      pushBack t
      simple g (← steps) ⟨(← get).line, [], [], []⟩
    | t => unexpected t none

def stages (g : Inner) : (steps : Nat) → Reader (List Script)
  | 0 => return []
  | n + 1 => do
    match ← g.token .argument with
    | .mark .pipe => return (← commandAt g .command) :: (← stages g n)
    | t => do
      pushBack t
      return []

def pipelineAt (g : Inner) : Reader Script := do
  let t ← g.token .command
  let negated : Bool :=
    match t with
    | .keyword .not => true
    | _ => false
  if !negated then pushBack t
  let first ← commandAt g .sameLine
  let rest ← stages g (← steps)
  let all := if rest.isEmpty then first else .pipeline false (first :: rest)
  return if negated then .negate all else all

def chain (g : Inner) : (steps : Nat) → Script → Reader Script
  | 0, s => return s
  | n + 1, s => do
    match ← g.token .argument with
    | .mark .both => chain g n (.both s (← pipelineAt g))
    | .mark .either => chain g n (.either s (← pipelineAt g))
    | t => do
      pushBack t
      return s

def inBackground (line : Nat) : Script → Script
  | .pipeline _ stages => .pipeline true stages
  | .redirected line body rs => .background line body rs
  | s => .background line s []

def endsList : Token → Bool
  | .end | .mark .close | .mark .endCase => true
  | .keyword k => [.do, .done, .elif, .else, .esac, .fi, .then, .closing].contains k
  | _ => false

def append : Option Script → Script → Script
  | none, s => s
  | some first, s => .seq first s

/-- A list of commands. Nothing is given back where a line was to be read and the text has ended. -/
def listAt (g : Inner) (x : Extent) : (steps : Nat) → (first : Bool) → Option Script →
    Reader (Option Script)
  | 0, _, acc => return acc
  | n + 1, first, acc => do
    let finish (t : Token) : Reader (Option Script) := do
      pushBack t
      return some (acc.getD .nothing)
    match ← g.token ⟨x ≠ .line, true, true⟩ with
    | .mark .newline => do
      readDocuments g.deeper
      return some (acc.getD .nothing)
    | .end => do
      readDocuments g.deeper
      if x = .line && acc.isNone then
        pushBack .end
        return none
      else finish .end
    | t =>
      if endsList t && (x = .any || (x = .filled && !first)) then finish t
      else do
        pushBack t
        let s ← chain g (← steps) (← pipelineAt g)
        let line := (← get).line
        match ← g.token .argument with
        | .mark .background => listAt g x n false (some (append acc (inBackground line s)))
        | .mark .semicolon => listAt g x n false (some (append acc s))
        | .mark .newline => do
          pushBack (.mark .newline)
          listAt g x n false (some (append acc s))
        | .end => do
          readDocuments g.deeper
          pushBack .end
          return some (append acc s)
        | t => do
          if x = .line then unexpected t none
          pushBack t
          return some (append acc s)

def list (g : Inner) (x : Extent) : Reader Script := do
  return (← listAt g x (← steps) true none).getD .nothing

/-- What is read within a command. -/
inductive Request where
  | list (x : Extent)
  | command

mutual

def read : (depth : Nat) → Request → Reader Script
  | 0, _ => fault "nested too deeply"
  | n + 1, r =>
    match r with
    | .list x => list (inner n) x
    | .command => commandAt (inner n) .command

def inner (depth : Nat) : Inner := ⟨depth, fun x => read depth (.list x), read depth .command⟩

end

def deepest : Nat := 2000

def readers : Reader Inner := do return inner (min (← steps) deepest)

def line : Reader (Option Script) := do listAt (← readers) .line (← steps) true none

def quotedText : Reader Word := do
  return (← documentBody (← readers).deeper ⟨0, "\x00", false, false⟩ (← steps)
    true []).reverse

end Reader

def Source.isAtEnd (s : Source) : Bool :=
  match s.pushed? with
  | some .end => true
  | _ => false

end SupervisedShell.Script
