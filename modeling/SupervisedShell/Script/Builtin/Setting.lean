import SupervisedShell.Script.Builtin.Variables

set_option autoImplicit false

namespace SupervisedShell.Script.Builtin

/-- The names of the options. Two have no letter: no argument can hold those that they get here. -/
def optionNames : List (String × Char) :=
  [("errexit", 'e'), ("noglob", 'f'), ("ignoreeof", 'I'), ("interactive", 'i'), ("monitor", 'm'),
    ("noexec", 'n'), ("stdin", 's'), ("xtrace", 'x'), ("verbose", 'v'), ("vi", 'V'), ("emacs", 'E'),
    ("noclobber", 'C'), ("allexport", 'a'), ("notify", 'b'), ("nounset", 'u'),
    ("privileged", 'p'), ("nolog", '\u0100'), ("debug", '\u0101')]

def turn (letter : Char) (on : Bool) : Act Unit :=
  modify fun r =>
    let others := r.options.filter (· ≠ letter)
    { r with options := if on then letter :: others else others }

def turnLetter (letter : Char) (on : Bool) : Act Unit := do
  if !optionNames.any (·.2 = letter) then Act.fail s!"Illegal option -{letter}"
  turn letter on
  if on && letter = 'V' then turn 'E' false
  if on && letter = 'E' then turn 'V' false

/-- Reads options of the shell itself, by letters or by names. -/
structure OptionReader where
  /-- The shell starts. Some letters have a meaning only then, and an option that was not mentioned
  counts as one that is on. -/
  starts : Bool
  given : List Char
  denied : List Char

namespace OptionReader

def shown (x : OptionReader) (r : Run) (letter : Char) : Bool :=
  r.isOn letter || (x.starts && !x.denied.contains letter)

def list (x : OptionReader) (on : Bool) : Act Unit := do
  let r ← get
  let line (o : String × Char) : String :=
    if on then
      o.1 ++ String.ofList (List.replicate (16 - o.1.length) ' ') ++
        (if x.shown r o.2 then "on" else "off") ++ "\n"
    else (if x.shown r o.2 then "set -o " else "set +o ") ++ o.1 ++ "\n"
  let head := if on then "Current option settings\n" else ""
  Act.say (head ++ String.join (optionNames.map line))

def note (x : OptionReader) (letter : Char) (on : Bool) : OptionReader :=
  if on then x else { x with denied := letter :: x.denied }

def letters (x : OptionReader) (on : Bool) :
    List Char → List String → Act (OptionReader × List String)
  | [], args => return (x, args)
  | 'o' :: cs, [] => do
    x.list on
    x.letters on cs []
  | 'o' :: cs, name :: args => do
    match optionNames.find? (·.1 = name) with
    | some (_, c) => do
      turn c on
      (x.note c on).letters on cs args
    | none => Act.fail s!"Illegal option -o {name}"
  | c :: cs, args => do
    if x.starts && (c = 'c' || c = 'l') then letters { x with given := c :: x.given } on cs args
    else
      turnLetter c on
      (x.note c on).letters on cs args

/-- Reads all arguments that are options. The flag tells whether the others, be there none, are to
replace the parameters. -/
def read (x : OptionReader) :
    (args : Nat) → List String → Act (OptionReader × List String × Bool)
  | 0, args => return (x, args, false)
  | _ + 1, [] => return (x, [], false)
  | n + 1, s :: rest => do
    match s.toList with
    | ['-', '-'] => return (x, rest, true)
    | ['-'] => do
      if !x.starts then
        turn 'x' false
        turn 'v' false
      return (x, rest, !rest.isEmpty)
    | '-' :: cs => do
      let (x, rest) ← x.letters true cs rest
      x.read n rest
    | '+' :: cs => do
      let (x, rest) ← x.letters false cs rest
      x.read n rest
    | _ => return (x, s :: rest, true)

end OptionReader

/-- Without a terminal no jobs can be controlled. A copy of the shell does not even try to. -/
def renounceJobs : Act Unit := do
  let r ← get
  if r.isOn 'm' && r.task.pid = r.root then
    Act.complain "can't access tty; job control turned off"
    turn 'm' false

def setParameters : Command := fun args => do
  if args.isEmpty then
    let lines := (sortedVariables (← get)).filterMap fun (n, v) =>
      v.value?.map fun x => s!"{n}={quoted x}\n"
    Act.say (String.join lines)
    return 0
  else
    let (_, rest, replaces) ← OptionReader.read ⟨false, [], []⟩ (args.length + 1) args
    renounceJobs
    if replaces then
      modify fun r => { r with params := rest }
      Act.beginOptions 1
    return 0

end SupervisedShell.Script.Builtin
