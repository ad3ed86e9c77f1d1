import SupervisedShell.Script.Builtin.Bounds
import SupervisedShell.Script.Builtin.Condition
import SupervisedShell.Script.Builtin.Directory
import SupervisedShell.Script.Builtin.Letter
import SupervisedShell.Script.Builtin.Names
import SupervisedShell.Script.Builtin.Printing
import SupervisedShell.Script.Builtin.Reading
import SupervisedShell.Script.Builtin.Rights
import SupervisedShell.Script.Builtin.Setting
import SupervisedShell.Script.Builtin.Signals
import SupervisedShell.Script.Subprocess
/-!
What a command calls: a program, to which the process is given over in the end, a command of the
shell, or a function.
-/

set_option autoImplicit false

namespace SupervisedShell.Script.Within

def longestArgument : Nat := 131071

/-- The image of the first candidate that can be loaded, or the last fault that is worth telling. -/
def firstImage (t : Task) (f : Files) (argv : List String) (e : IoError) :
    List String → Except IoError Image
  | [] => .error e
  | c :: rest =>
    match Image.loadOrRead f t.directory argv (Octets.toBytes c) with
    | .ok found =>
      if argv.any (longestArgument < ·.length) then .error Errno.tooBig else .ok found.image
    | .error g =>
      firstImage t f argv (if g = Errno.notFound || g = Errno.notDirectory then e else g) rest

/-- Candidates before the first one that counts are not tried. -/
def image (t : Task) (f : Files) (first : Nat) (searchPath : String) (argv : List String) :
    Except IoError Image :=
  let name := argv.headD ""
  let tried := if isPath name then [name] else (candidates searchPath name).drop first
  firstImage t f argv Errno.notFound tried

def startFault (e : IoError) : Nat :=
  if e = Errno.notFound || e = Errno.notDirectory || e = Errno.tooManyLevels ||
    e = Errno.nameTooLong then 127
  else 126

def replace (x : Within) (first : Nat) (searchPath : String) (argv : List String) : Act Unit := do
  let r ← get
  match ← Act.seen fun t w => image t w.files first searchPath argv with
  | .ok i =>
    let t : Task := { r.task with environment := r.environment }
    Act.perform (Routine.instead (Program.become x.run i t))
  | .error e => do
    let name := argv.headD ""
    Act.complain s!"{name}: {missingReason e}"
    modify fun r => { r with status := startFault e, exitStatus? := none }
    throw .exit

/-- Runs a program in front. Where nothing comes behind it, it takes the place of the script. -/
def program (x : Within) (p : Position) (other? : Option String) (argv : List String) :
    Act Nat := do
  let name := argv.headD ""
  let searchPath := other?.getD (← get).searchPath
  match ← Act.program other? name with
  | .program first _ => do
    let acts ← hasTraps
    if p.final && !acts then
      x.replace first searchPath argv
      return 0
    else
      let pid ← Act.launch fun t r =>
        x.conclude (x.replace first searchPath argv) { r.copy t with traps := [] }
      Act.awaitFront [pid]
  | .missing e => do
    Act.complain s!"{name}: {missingReason e}"
    return 127
  | _ => return 127

def skipLoops (next : Bool) : Builtin.Command := fun args => do
  let n ←
    match args with
    | [] => pure 1
    | s :: _ => do
      let n ← Builtin.number s
      if n = 0 then Builtin.illegalNumber s else pure n
  modify fun r =>
    let n := min n r.loops
    if n = 0 then r
    else { r with skipping := if next then .continuing n else .breaking n }
  return 0

def leaveFunction : Builtin.Command := fun args => do
  let status ←
    match args with
    | [] => pure (← get).status
    | s :: _ => Builtin.number s
  modify fun r => { r with skipping := .returning (!args.isEmpty) }
  return status

def exit : Builtin.Command := fun args => do
  match args with
  | [] => pure ()
  | s :: _ => do
    let n ← Builtin.number s
    modify fun r => { r with exitStatus? := some n }
  throw .exit

def sourcePath (name : String) : Act String := do
  if isPath name then return name
  else
    let isFile (t : Task) (w : World) (path : String) : Bool :=
      match t.walk w path with
      | .ok (_, n) => n.isRegular
      | .error _ => false
    let tried := candidates (← get).searchPath name
    match ← Act.seen fun t w => tried.find? (isFile t w) with
    | some path => return path
    | none => Act.fail s!"{name}: not found"

/-- Opens a file to read a script from, behind a number that programs do not get. -/
def openScript (path : String) : Act Nat := do
  match ← Act.call fun t w => t.openFile path .reading w with
  | .error e => Act.fail s!"cannot open {path}: {Redirect.reason true e}"
  | .ok n => do
    if Redirect.leastKept ≤ n then return n
    match ← Redirect.keep n with
    | .kept k => return k
    | _ => return n

def dot (x : Within) : Builtin.Command := fun args => do
  match ← Builtin.operands args with
  | [] => return 0
  | name :: _ => do
    let path ← sourcePath name
    let n ← openScript path
    modify fun r => { r with speaker? := some path }
    let status ← Act.ensuring (x.feed .plain (.ofChannel n)) (Redirect.close n)
    modify fun r =>
      match r.skipping with
      | .returning _ => { r with skipping := .no }
      | _ => r
    return status

def evalText (x : Within) (p : Position) : Builtin.Command := fun args => do
  if args.isEmpty then return 0 else x.text p.inner (" ".intercalate args)

def exec (x : Within) : Builtin.Command := fun args => do
  match args with
  | [] => return 0
  | argv => do
    x.replace 0 (← get).searchPath argv
    return 0

def builtin (x : Within) (p : Position) (name : String) : Builtin.Command :=
  match name with
  | "." => x.dot
  | "break" => skipLoops false
  | "continue" => skipLoops true
  | "eval" => x.evalText p
  | "exec" => x.exec
  | "exit" => exit
  | "return" => leaveFunction
  | "command" => Builtin.describeCommand
  | "export" => Builtin.exports
  | "readonly" => Builtin.readonly
  | "local" => Builtin.makeLocal
  | "set" => Builtin.setParameters
  | "shift" => Builtin.shift
  | "times" => times
  | "trap" => Builtin.trap
  | "unset" => Builtin.unset
  | "alias" => Builtin.makeAlias
  | "unalias" => Builtin.unalias
  | "cd" | "chdir" => Builtin.cd
  | "pwd" => Builtin.pwd
  | "echo" => Builtin.echo
  | "printf" => Builtin.printf
  | "test" => Builtin.test
  | "[" => Builtin.bracket
  | "getopts" => Builtin.getopts
  | "read" => Builtin.read
  | "hash" => Builtin.hash
  | "type" => Builtin.type
  | "jobs" => Builtin.jobs
  | "fg" | "bg" => Builtin.move
  | "kill" => Builtin.kill
  | "wait" => Builtin.wait
  | "umask" => Builtin.umask
  | "ulimit" => Builtin.ulimit
  | "false" => fun _ => return 1
  | _ => fun _ => return 0
where
  times : Builtin.Command := fun _ => do
    Act.say "0m0.000000s 0m0.000000s\n0m0.000000s 0m0.000000s\n"
    return 0

def delivered (name : String) (status : Nat) : Act Nat := do
  Act.flush
  if (← get).lost then
    Act.complain s!"{name}: I/O error"
    return status ||| 1
  else return status

/-- Runs a command of the shell under its name. Only a special one takes the run along
if it fails. -/
def speakAs (name : String) (special : Bool) (body : Act Nat) : Act Nat := do
  let outer? := (← get).speaker?
  modify fun r => { r with speaker? := some name, lost := false }
  Act.ensuring
    (tryCatch (do delivered name (← body)) fun h => do
      Act.flush
      match h with
      | .failure => if special then throw .failure else return (← get).status
      | h => throw h)
    (modify fun r => { r with speaker? := outer?, lost := false })

def mostCalls : Nat := 1000

def call (x : Within) (p : Position) (body : Script) (args : List String) : Act Nat := do
  let r ← get
  if mostCalls ≤ r.calls then Act.fail s!"Maximum function recursion depth ({mostCalls}) reached"
  set { r with params := args, loops := 0, calls := r.calls + 1 }
  Act.beginOptions 1
  Act.ensuring (x.eval p.inner body)
    (modify fun s =>
      { s with
        params := r.params, loops := r.loops, calls := r.calls
        optionIndex := r.optionIndex, letterPlace? := r.letterPlace?
        skipping :=
          match s.skipping with
          | .returning _ => .no
          | k => k })
  return (← get).status

end SupervisedShell.Script.Within
