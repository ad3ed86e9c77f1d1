import SupervisedShell.Script.Callee

set_option autoImplicit false

namespace SupervisedShell.Script.Within

/-- The fields of a command as far as they are known, and the words that are left. -/
structure Fields where
  passed : List String
  fields : List String
  words : List Word

def fill (x : Within) (acc : List String) : List Word → Act (Option Fields)
  | [] => return none
  | w :: rest => do
    match ← Expansion.fields x.capture w with
    | [] => x.fill acc rest
    | fs => return some ⟨[], acc ++ fs, rest⟩

/-- What a prefix `command` makes of the fields behind it. -/
structure Prefixed where
  fields : Fields
  usualPath : Bool

/-- Passes over the first field. There has to be another one behind it. -/
def passOver (x : Within) (f : Fields) : Act (Option Fields) := do
  let step (g : Fields) : Fields :=
    ⟨f.passed ++ g.fields.take 1, g.fields.tail, g.words⟩
  match f.fields with
  | _ :: _ :: _ => return some (step f)
  | fs => return (← x.fill fs f.words).map step

def behindCommand (x : Within) (usual : Bool) : (steps : Nat) → Fields → Act (Option Prefixed)
  | 0, _ => return none
  | n + 1, f => do
    match ← x.passOver f with
    | none => return none
    | some behind =>
      match (behind.fields.headD "").toList with
      | ['-', '-'] => return (← x.passOver behind).map (⟨·, usual⟩)
      | '-' :: c :: cs =>
        if (c :: cs).all (· = 'p') then x.behindCommand true n behind else return none
      | _ => return some ⟨behind, usual⟩

/-- What is to be called, once the first fields are known. -/
structure Callee where
  fields : Fields
  meaning : Meaning
  special : Bool
  usualPath : Bool

def callee (x : Within) (functions : Bool) (special? : Option Bool) (usual : Bool) :
    (steps : Nat) → Fields → Act (Option Callee)
  | 0, _ => return none
  | n + 1, f => do
    let r ← get
    let name := f.fields.headD ""
    let meaning : Meaning :=
      if specialNames.contains name then .special
      else
        match if functions then r.function? name else none with
        | some body => .function body
        | none => if regularNames.contains name then .builtin else .program 0 name
    let isSpecial : Bool :=
      match meaning with
      | .special => true
      | _ => false
    let found : Callee := ⟨f, meaning, special?.getD isSpecial, usual⟩
    match meaning with
    | .builtin =>
      if name = "command" then
        match ← x.behindCommand usual (f.words.length + f.fields.length + 2) f with
        | some behind =>
          x.callee false (some (special?.getD false)) behind.usualPath n behind.fields
        | none => return some found
      else return some found
    | _ => return some found

def assigning : List String := ["export", "readonly", "local", "alias"]

def restOf (x : Within) (assigns : Bool) : List Word → Act (List String)
  | [] => return []
  | w :: rest => do
    let first ←
      match if assigns then w.assignment? else none with
      | some (name, value) => do pure [s!"{name}={← Expansion.assigned x.capture value}"]
      | none => Expansion.fields x.capture w
    return first ++ (← x.restOf assigns rest)

def assignAll (x : Within) (lasting exports : Bool) : List Word → Act (List String)
  | [] => return []
  | w :: rest => do
    match w.assignment? with
    | some (name, value) => do
      let text ← Expansion.assigned x.capture value
      if !lasting then Act.keep name
      Act.assign name text (exports || !lasting)
      return s!"{name}={text}" :: (← x.assignAll lasting exports rest)
    | none => x.assignAll lasting exports rest

def traceMark (x : Within) : Act String := do
  let mark := ((← get).valueOf? "PS4").getD ""
  match (Reader.quotedText.run (Feed.ofText mark).source : Except Fault (Word × Source)) with
  | .ok (w, _) => Expansion.quoted x.capture w
  | .error _ => return mark

def traceChannel (redirects : Bool) : Act Nat := do
  let r ← get
  let level := if redirects then r.replaced.headD [] else []
  match level.find? (·.1 = 2) with
  | some (_, .kept k) => return k
  | _ => return 2

def trace (x : Within) (redirects : Bool) (fields : List String) : Act Unit := do
  if (← get).isOn 'x' then
    let mark ← x.traceMark
    let _ ← Act.write (← traceChannel redirects) (mark ++ " ".intercalate fields ++ "\n")

def dispatch (x : Within) (p : Position) (c? : Option Callee) (argv : List String) : Act Nat := do
  match c? with
  | none => return (← get).innerStatus
  | some c =>
    let name := argv.headD ""
    let status ←
      match c.meaning with
      | .special | .builtin => speakAs name c.special (x.builtin p name argv.tail)
      | .function body => x.call p body argv.tail
      | _ => x.program p (if c.usualPath then some Builtin.usualPath else none) argv
    Act.learnAll none Act.mostChildren
    return status

def simple (x : Within) (p : Position) (line : Nat) (assigns words : List Word)
    (redirects : List Redirect) : Act Nat := do
  modify fun r => { r with line, innerStatus := 0 }
  let c? ←
    match ← x.fill [] words with
    | some f => x.callee true none false (words.length + f.fields.length + 2) f
    | none => pure none
  let name := c?.elim "" fun c => c.fields.fields.headD ""
  let argv ←
    match c? with
    | some c => do pure (c.fields.fields ++ (← x.restOf (assigning.contains name) c.fields.words))
    | none => pure []
  let passed := c?.elim [] (·.fields.passed)
  let special := c?.any (·.special)
  let lasting := special || c?.isNone
  let ts ← Redirect.targets x.capture redirects
  if !lasting then Act.openLevel
  let refused : Act Nat := if special then Act.failed else return Act.failureStatus
  let body : Act Nat := do
    let settings ← x.assignAll lasting (name = "exec" && 1 < argv.length) assigns
    x.trace (!ts.isEmpty) (settings ++ passed ++ argv)
    x.dispatch p c? argv
  Act.ensuring (Redirect.around x.capture ts (name = "exec") refused body)
    (if lasting then return () else Act.closeLevel)

end SupervisedShell.Script.Within
