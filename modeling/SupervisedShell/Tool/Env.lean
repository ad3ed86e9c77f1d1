import SupervisedShell.Tool.Manual
import SupervisedShell.Tool.Quoting
import SupervisedShell.Tool.Split
/-!
The program that runs another one in changed surroundings, or prints them.
-/

set_option autoImplicit false

namespace SupervisedShell.Program

namespace Env

def known : List Flag :=
  [.plain 'i' "ignore-environment", .plain '0' "null", .valued 'u' "unset", .valued 'C' "chdir",
    .word "default-signal" .optional, .word "ignore-signal" .optional,
      .word "block-signal" .optional,
    .word "list-signal-handling" .nothing, .plain 'v' "debug",
    ⟨some 'S', "split-string", .value, true⟩] ++ Flag.common

/-- What ends the program with a message, or with a hint at its usage. -/
inductive Failure where
  | plain (message : String)
  | usage (message : String)
  | asked (word : String)

abbrev Work := ExceptT Failure Routine

/-- What the options ask for. -/
structure Plan where
  empties : Bool
  endsWithNul : Bool
  unset : List String
  directory? : Option String
  signals : List (Bool × Option String)
  lists : Bool
  tells : Bool

namespace Plan

def start : Plan := ⟨false, false, [], none, [], false, false⟩

def apply (p : Plan) (f : Flag) (value? : Option String) : Plan :=
  match f.word? with
  | some "ignore-environment" => { p with empties := true }
  | some "null" => { p with endsWithNul := true }
  | some "unset" => { p with unset := p.unset ++ value?.toList }
  | some "chdir" => { p with directory? := value? }
  | some "default-signal" => { p with signals := p.signals ++ [(false, value?)] }
  | some "ignore-signal" => { p with signals := p.signals ++ [(true, value?)] }
  | some "list-signal-handling" => { p with lists := true }
  | some "debug" => { p with tells := true }
  | _ => p

end Plan

def tell (t : Task) (p : Plan) (line : String) : Work Unit := do
  if p.tells then t.complain line

def tellAll (t : Task) (p : Plan) : List String → Work Unit
  | [] => return ()
  | line :: rest => do
    tell t p line
    tellAll t p rest

def split (t : Task) (p : Plan) (s : String) : Work (List String) := do
  match Split.words t.valueOf? s with
  | .error f => throw (.plain f.message)
  | .ok (words, asked) => do
    let asking (a : String × Option String) : String :=
      let name := "$\x7b" ++ a.1 ++ "\x7d"
      match a.2 with
      | some v => s!"expanding {name} into " ++ Quoting.quoted v
      | none => s!"replacing {name} with null string"
    tellAll t p (asked.map asking)
    match words with
    | [] => return []
    | w :: rest => do
      tell t p ("split -S:  " ++ Quoting.quoted s)
      tell t p (" into:    " ++ Quoting.quoted w)
      tellAll t p (rest.map fun w => "     &    " ++ Quoting.quoted w)
      return words

def hint : String := "use -[v]S to pass options in shebang lines"

/-- A blank is no letter of an option. The one who wrote it may have meant something else. -/
def withHint (t : Task) (message : String) : String :=
  let isBlank : Bool := [' ', '\t', '\n', '\x0b', '\x0c', '\r'].any fun c =>
    message = "invalid option -- " ++ s!"'{c}'"
  if isBlank then s!"{message}\n{t.name}: {hint}" else message

def plan (t : Task) : (texts : Nat) → Plan → List String → Work (Plan × List String)
  | 0, p, args => return (p, args)
  | n + 1, p, args => do
    let x := Flags.read known false none args
    match x.asked? with
    | some word => throw (.asked word)
    | none => pure ()
    let p := x.given.foldl (fun p g => p.apply g.1 g.2) p
    match x.fault?, x.given.getLast? with
    | some message, _ => throw (.usage (withHint t message))
    | none, some (f, some s) =>
      if f.isLast then do
        let words ← split t p s
        plan t n p (words ++ x.operands)
      else return (p, x.operands)
    | none, _ => return (p, x.operands)

def assign (environment : List (String × String)) (name value : String) :
    List (String × String) :=
  if environment.any (·.1 = name) then
    environment.map fun (n, v) => (n, if n = name then value else v)
  else environment ++ [(name, value)]

def settings (t : Task) (p : Plan) (environment : List (String × String)) :
    List String → Work (List (String × String) × List String)
  | [] => return (environment, [])
  | s :: rest =>
    let name := s.toList.takeWhile (· ≠ '=')
    if name.length < s.length then do
      tell t p s!"setenv:   {s}"
      settings t p (assign environment (String.ofList name)
        (String.ofList (s.toList.drop (name.length + 1))))
        rest
    else return (environment, s :: rest)

def unsetAll (t : Task) (p : Plan) (environment : List (String × String)) :
    List String → Work (List (String × String))
  | [] => return environment
  | name :: rest => do
    tell t p s!"unset:    {name}"
    if name.isEmpty || name.toList.contains '=' then
      throw (.plain ("cannot unset " ++ Quoting.quoted name ++ ": " ++ reason Errno.invalid))
    unsetAll t p (environment.filter (·.1 ≠ name)) rest

def signal? (s : String) : Option Nat :=
  if !s.isEmpty && s.toList.all Char.isDigit then
    s.toNat?.bind fun n => if n ≤ Signal.last then some n else none
  else
    let name := s.toUpper
    let name := if "SIG".isPrefixOf name then (name.drop 3).toString else name
    (Signal.names.idxOf? name).map (· + 1)

def signals (s : String) : Work (List Nat) :=
  ((s.splitOn ",").filter (· ≠ "")).mapM fun w =>
    match signal? w with
    | some (n + 1) => return n + 1
    | _ => throw (.usage (Quoting.quoted w ++ ": invalid signal"))

def fixed : List Nat := [Signal.kill, 19]

def setSignals (t : Task) (ignores : Bool) (ns : List Nat) : Routine Unit :=
  Routine.change fun w => w.update t.pid fun q =>
    let others := q.ignored.filter fun n => !ns.contains n
    { q with ignored := if ignores then ns ++ others else others }

/-- Ignores signals, or does not. They are all looked at before any is changed. -/
def applySignals (t : Task) : List (Bool × Option (List Nat)) → Work Unit
  | [] => return ()
  | (ignores, ns?) :: rest => do
    match ns? with
    | none =>
      setSignals t ignores (((List.range Signal.last).map (· + 1)).filter fun n =>
        !fixed.contains n)
    | some ns =>
      match ns.find? fixed.contains with
      | some n =>
        throw (.plain s!"failed to set signal action for signal {n}: {reason Errno.invalid}")
      | none => setSignals t ignores ns
    applySignals t rest

def listSignals (t : Task) : Work Unit := do
  let ignored ← ExceptT.lift (Routine.seen fun w => (w.process? t.pid).elim [] (·.ignored))
  let one (n : Nat) : String :=
    let name := (Signal.name? n).getD (toString n)
    let number := toString n
    name ++ String.ofList (List.replicate (10 - name.length) ' ') ++ " (" ++
      (if number.length < 2 then " " else "") ++ number ++ "): IGNORE"
  let numbers := ((List.range Signal.last).map (· + 1)).filter ignored.contains
  numbers.forM fun n => (t.complain (one n) : Routine Unit)

def start (run : Tool → Program) (command : String) (args : List String) (t : Task) :
    Routine WaitStatus := do
  let searchPath? := (t.valueOf? "PATH").map Octets.toBytes
  let files ← Routine.seen (·.files)
  let attempt := Image.loadOrRead files t.directory (command :: args)
  match Image.findWith attempt searchPath? (Octets.toBytes command) with
  | .ok found => become run found.image t
  | .error e =>
    let lacks := e = Errno.notFound && command.toList.any Split.isBlank
    let more := if lacks then s!"\n{t.name}: {hint}" else ""
    let word := Quoting.quoted command
    fails s!"{t.name}: {word}: {reason e}{more}" (if e = Errno.notFound then 127 else 126) t

def directory (t : Task) (p : Plan) : Work Place := do
  match p.directory? with
  | none => return t.directory
  | some path => do
    tell t p ("chdir:    " ++ Quoting.quoted path)
    let walked ← ExceptT.lift (Routine.seen fun w => t.walk w path)
    let refused (e : IoError) : Work Place :=
      throw (.plain ("cannot change directory to " ++ Quoting.quoted path ++ ": " ++ reason e))
    match walked with
    | .ok (place, .directory mode) =>
      if mode &&& Right.execute.bit = 0 then refused Errno.denied else return place
    | .ok _ => refused Errno.notDirectory
    | .error e => refused e

def prepare (t : Task) : Work (Plan × Task × List String) := do
  let texts := t.argv.foldl (fun n a => n + a.length) 2
  let (p, operands) ← plan t texts .start t.argv.tail
  let (empties, operands) :=
    match operands with
    | "-" :: rest => (true, rest)
    | rest => (p.empties, rest)
  let wanted ← p.signals.mapM fun (ignores, s?) => do
    match s? with
    | none => return (ignores, none)
    | some s => do return (ignores, some (← signals s))
  let kept ←
    if empties then do
      tell t p "cleaning environ"
      pure []
    else unsetAll t p t.environment p.unset
  let (environment, command) ← settings t p kept operands
  if command.isEmpty then
    if p.directory?.isSome then throw (.usage "must specify command with --chdir (-C)")
    return (p, { t with environment }, [])
  if p.endsWithNul then throw (.usage "cannot specify --null (-0) with command")
  applySignals t wanted
  if p.lists then listSignals t
  let place ← directory t p
  tell t p ("executing: " ++ command.headD "")
  tellAll t p (command.zipIdx.map fun (a, i) => s!"   arg[{i}]= " ++ Quoting.quoted a)
  return (p, { t with environment, directory := place }, command)

end Env

def env (run : Tool → Program) : Program := fun t => do
  match ← (Env.prepare t).run with
  | .error (.asked word) => tellOf "env" word t 0 125
  | .error (.plain message) => fails s!"{t.name}: {message}" 125 t
  | .error (.usage message) => misused t message 125
  | .ok (_, t, name :: args) => Env.start run name args t
  | .ok (p, t, []) =>
    let ending := if p.endsWithNul then "\x00" else "\n"
    deliver t (String.join (t.environment.map fun (n, v) => s!"{n}={v}{ending}")) 0 125

end SupervisedShell.Program
