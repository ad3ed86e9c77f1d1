import SupervisedShell.Script.Arithmetic
import SupervisedShell.Script.Field
/-!
What words come to: parameters give way to their values, commands to what they print, and sums to
their results.
-/

set_option autoImplicit false

namespace SupervisedShell.Script

structure Manner where
  splits : Bool
  separates : Bool
  capture : Script → Act String

namespace Run

def joint (r : Run) : String :=
  match r.valueOf? "IFS" with
  | none => " "
  | some s => String.ofList (s.toList.take 1)

def shownOptions : List Char :=
  ['p', 'u', 'b', 'a', 'C', 'E', 'V', 'v', 'x', 's', 'n', 'm', 'i', 'I', 'f', 'e']

def parameter? (r : Run) (name : String) : Option String :=
  match name with
  | "?" => some (toString r.status)
  | "$" => some (toString r.root)
  | "#" => some (toString r.params.length)
  | "!" => r.lastBackground?.map toString
  | "-" => some (String.ofList (shownOptions.filter r.isOn))
  | "@" | "*" => some (r.joint.intercalate r.params)
  | _ =>
    match name.toList with
    | c :: _ => if c.isDigit then r.param? (name.toNat?.getD 0) else r.valueOf? name
    | [] => none

end Run

namespace Expansion

def withoutEndings (s : String) : String :=
  String.ofList (s.toList.reverse.dropWhile (· = '\n')).reverse

def separate (quoted : Bool) (values : List String) : List Atom :=
  let one (v : String) : List Atom :=
    if quoted then .mark :: Atom.ofText true false v else Atom.ofText false true v
  ((values.map one).intersperse [.cut]).flatten

def isSeveral (m : Manner) (name : String) (quoted : Bool) : Bool :=
  m.splits && (name = "@" || (name = "*" && !quoted))

def allParams (m : Manner) (name : String) (quoted : Bool) : Act (List Atom) := do
  let r ← get
  if isSeveral m name quoted then return separate quoted r.params
  else return Atom.ofText quoted (!quoted) (r.joint.intercalate r.params)

def valueOf (m : Manner) (name : String) (quoted : Bool) : Act (List Atom) := do
  if name = "@" || name = "*" then allParams m name quoted
  else
    let r ← get
    match r.parameter? name with
    | some v => return Atom.ofText quoted (!quoted) v
    | none =>
      if r.isOn 'u' then Act.fail s!"{name}: parameter not set"
      else return []

def demanded (name : String) : Act String := do
  let r ← get
  match r.parameter? name with
  | some v => return v
  | none => if r.isOn 'u' then Act.fail s!"{name}: parameter not set" else return ""

def severalOrOne (m : Manner) (name : String) (quoted : Bool) : Act (List Char) := do
  if isSeveral m name quoted then
    return (((← get).params.map String.toList).intersperse [Glob.divider]).flatten
  else return (← demanded name).toList

def separateOrOne (m : Manner) (name : String) (quoted : Bool) (t : List Char) : List Atom :=
  if isSeveral m name quoted then
    separate quoted ((t.splitOnP (· = Glob.divider)).map String.ofList)
  else Atom.ofText quoted (!quoted) (String.ofList t)

def lacks (name : String) (colon : Bool) : Act Bool := do
  let v? := (← get).parameter? name
  return v?.isNone || (colon && v? = some "")

def assign (name value : String) : Act Unit := do
  if isName name then Act.assign name value false
  else Act.fail s!"{name}: bad variable name"

def accounts : List (String × String) :=
  [("root", "/root"), ("daemon", "/usr/sbin"), ("bin", "/bin"), ("sys", "/dev"), ("sync", "/bin"),
    ("games", "/usr/games"), ("man", "/var/cache/man"), ("lp", "/var/spool/lpd"),
      ("mail", "/var/mail"),
    ("news", "/var/spool/news"), ("uucp", "/var/spool/uucp"), ("proxy", "/bin"),
    ("www-data", "/var/www"), ("backup", "/var/backups"), ("list", "/var/list"),
      ("irc", "/run/ircd"),
    ("_apt", "/nonexistent"), ("nobody", "/nonexistent")]

def home? (r : Run) (name : String) : Option String :=
  if name.isEmpty then r.valueOf? "HOME" else (accounts.find? (·.1 = name)).map (·.2)

/-- The home directory that a tilde at the front stands for, and how many pieces it takes. A name
may follow it, up to a slash or one of the other ends. -/
def tilde? (r : Run) (ends : Char → Bool) (w : Word) : Option (String × Nat) :=
  match w with
  | .char '~' false :: rest =>
    let name := rest.takeWhile fun p => p.plain?.any fun c => !(c = '/' || ends c)
    let isWhole : Bool :=
      match rest.drop name.length with
      | [] => true
      | p :: _ => p.plain?.isSome
    if isWhole then
      (home? r (String.ofList (name.filterMap Piece.plain?))).map fun h => (h, name.length + 1)
    else none
  | _ => none

def tilde (r : Run) (ends : Char → Bool) (w : Word) : Word :=
  match tilde? r ends w with
  | some (h, n) => h.toList.map (Piece.char · true) ++ w.drop n
  | none => w

def literals (m : Manner) : Word → List Atom
  | .char c quoted :: rest => .char c quoted (m.separates && !quoted) :: literals m rest
  | _ => []

def unsplit (m : Manner) : Manner := { m with splits := false }

mutual

def piece (m : Manner) : Piece → Act (List Atom)
  | .char c quoted => return [.char c quoted (m.separates && !quoted)]
  | .mark => return [.mark]
  | .command body quoted => do
    return Atom.ofText quoted (!quoted) (withoutEndings (← m.capture body))
  | .arithmetic w quoted => do
    let text := Atom.text (← word (unsplit m) 0 w)
    return Atom.ofText quoted (!quoted) (toString (← Sum.value text))
  | .parameter name form w quoted => do
    match form with
    | .value => valueOf m name quoted
    | .length => return Atom.ofText quoted (!quoted) (toString (← demanded name).length)
    | .default colon =>
      if ← lacks name colon then inner { m with separates := !quoted } w
      else valueOf m name quoted
    | .alternative colon =>
      if ← lacks name colon then return []
      else inner { m with separates := !quoted } w
    | .assign colon =>
      if ← lacks name colon then
        let text := Atom.text (← inner (unsplit m) w)
        assign name text
      valueOf m name quoted
    | .demand colon =>
      if ← lacks name colon then
        let text := Atom.text (← inner (unsplit m) w)
        let usual := if colon then "parameter not set or null" else "parameter not set"
        Act.fail s!"{name}: {if w.isEmpty then usual else text}"
      else valueOf m name quoted
    | .withoutPrefix longest => do
      let value ← severalOrOne m name quoted
      let p := Glob.ofWord ((← inner (unsplit m) w).flatMap Atom.letters)
      return separateOrOne m name quoted (Glob.withoutPrefix p longest value)
    | .withoutSuffix longest => do
      let value ← severalOrOne m name quoted
      let p := Glob.ofWord ((← inner (unsplit m) w).flatMap Atom.letters)
      return separateOrOne m name quoted (Glob.withoutSuffix p longest value)
    | .bad => Act.fail "Bad substitution"

def inner (m : Manner) (w : Word) : Act (List Atom) := do
  match tilde? (← get) (fun _ => false) w with
  | some (home, n) => do return Atom.ofText true false home ++ (← word m n w)
  | none => word m 0 w

/-- A word behind pieces that are passed over. Quotes around nothing but all parameters leave no
field if there are none. -/
def word (m : Manner) : (passed : Nat) → Word → Act (List Atom)
  | _, [] => return []
  | n + 1, _ :: rest => word m n rest
  | 0, .mark :: .parameter "@" .value w true :: .mark :: rest => do
    let first ← if m.splits then allParams m "@" true else piece m (.parameter "@" .value w true)
    return first ++ (← word m 0 rest)
  | 0, .char c quoted :: rest => do
    let more := literals m rest
    return .char c quoted (m.separates && !quoted) :: more ++ (← word m more.length rest)
  | 0, p :: rest => do
    let first ← piece m p
    return first ++ (← word m 0 rest)

end

def tildes (r : Run) : (steps : Nat) → Word → Word
  | 0, w => w
  | n + 1, w =>
    let w := tilde r (· = ':') w
    let isColon (p : Piece) : Bool := p.plain? = some ':'
    let first := w.takeWhile fun p => !isColon p
    match w.drop first.length with
    | [] => first
    | colon :: rest => first ++ colon :: tildes r n rest

def isMagic (a : Atom) : Bool := Glob.mayBeMagic a.letters

def fields (capture : Script → Act String) (w : Word) : Act (List String) := do
  let r ← get
  let atoms ← word ⟨true, false, capture⟩ 0 (tilde r (fun _ => false) w)
  let r ← get
  let fields := Atom.fields r.separators.toList atoms
  if r.isOn 'f' || !atoms.any isMagic then return fields.map Atom.text
  else
    let paths ← Act.seen fun t w => fields.map fun f =>
        Glob.paths w.files t.directory (f.flatMap Atom.letters)
    return paths.flatten

def text (capture : Script → Act String) (w : Word) : Act String := do
  let r ← get
  return Atom.text (← word ⟨false, false, capture⟩ 0 (tilde r (fun _ => false) w))

def assigned (capture : Script → Act String) (w : Word) : Act String := do
  let r ← get
  return Atom.text (← word ⟨false, false, capture⟩ 0 (tildes r w.length w))

def pattern (capture : Script → Act String) (w : Word) : Act (List Glob) := do
  let r ← get
  let atoms ← word ⟨false, false, capture⟩ 0 (tilde r (fun _ => false) w)
  return Glob.ofWord (atoms.flatMap Atom.letters)

def quoted (capture : Script → Act String) (w : Word) : Act String := do
  return Atom.text (← word ⟨false, false, capture⟩ 0 w)

end Expansion

end SupervisedShell.Script
