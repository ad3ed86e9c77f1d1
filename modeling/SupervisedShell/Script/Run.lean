import SupervisedShell.Machine.Task
import SupervisedShell.Script.Integer
import SupervisedShell.Script.Source
/-!
A script as it runs: what it knows, and the process that it is. A step may end the run, or fail, in
which case what stands around it decides how far the failure reaches.
-/

set_option autoImplicit false

namespace SupervisedShell.Script

structure Variable where
  value? : Option String
  exported : Bool
  fixed : Bool
  deriving DecidableEq, Repr

/-- Commands are passed over up to the end of a loop, or of a function. -/
inductive Skipping where
  | no
  | breaking (loops : Nat)
  | continuing (loops : Nat)
  | returning (withStatus : Bool)
  deriving DecidableEq, Repr

/-- Processes that were started together, each with the status that it was seen to end with. -/
structure Job where
  number : Nat
  stages : List (Nat × Option WaitStatus)
  waited : Bool
  deriving DecidableEq, Repr

def Job.isDone (j : Job) : Bool := j.stages.all (·.2.isSome)

/-- What a redirection has found behind a number. -/
inductive Former where
  | kept (number : Nat)
  | nothing
  | untouched
  deriving DecidableEq, Repr

/-- A program that was found: which of the candidates it is, and its path. -/
structure Known where
  index : Nat
  path : String
  stale : Bool
  deriving DecidableEq, Repr

/-- What is put back at the end of a function: what variables were, and the options, if they
are its own. -/
structure Level where
  bindings : List (String × Option Variable)
  options? : Option (List Char)
  deriving DecidableEq, Repr

/-- Why a run does not go on. -/
inductive Halt where
  | exit
  | failure
  deriving DecidableEq, Repr

structure Run where
  task : Task
  root : Nat
  deaf : List Nat
  zero : String
  speaker? : Option String
  params : List String
  bindings : List (String × Variable)
  functions : List (String × Script)
  aliases : List (String × String)
  options : List Char
  status : Nat
  innerStatus : Nat
  exitStatus? : Option Nat
  line : Nat
  lastBackground? : Option Nat
  jobs : List Job
  replaced : List (List (Nat × Former))
  remembered : List (String × Known)
  traps : List (Nat × String)
  pending : List Nat
  skipping : Skipping
  loops : Nat
  calls : Nat
  saved : List Level
  documents : List Document
  nextDocument : Nat
  whereabouts : String
  optionIndex : Nat
  letterPlace? : Option Nat
  /-- What the command at hand has printed and was not delivered yet, the last piece first, and how
  long it is. -/
  held : List String
  heldLength : Nat
  lost : Bool

abbrev Act := ExceptT Halt (StateT Run Routine)

namespace Act

def failed {α : Type} : Act α := throw .failure

def perform {α : Type} (a : Routine α) : Act α := ExceptT.lift (StateT.lift a)

def call {α : Type} (f : Task → World → α × World) : Act α := do
  let t := (← get).task
  perform (Routine.call (f t))

def seen {α : Type} (f : Task → World → α) : Act α := call fun t w => (f t w, w)

def change (f : Task → World → World) : Act Unit := call fun t w => ((), f t w)

def await {α : Type} (f : Task → World → Option (α × World)) : Act α := do
  let t := (← get).task
  perform (Routine.await (f t))

def break_ {α : Type} (signal : Nat) : Act α := do
  change fun t w => w.finish t.pid (.signaled signal false)
  perform Routine.forever

def write (n : Nat) (text : String) : Act (Except IoError Unit) := do
  let t := (← get).task
  perform (t.write n text)

def deliver (text : String) : Act Unit := do
  match ← write 1 text with
  | .ok () => return ()
  | .error _ => modify fun r => { r with lost := true }

def flush : Act Unit := do
  let r ← get
  if !r.held.isEmpty then
    set { r with held := [], heldLength := 0 }
    deliver (String.join r.held.reverse)

def mostHeld : Nat := 8192

/-- Prints for a command. What it prints is held back until it is done, or until it is too long. -/
def say (text : String) : Act Unit := do
  if mostHeld < (← get).heldLength + text.length then flush
  if mostHeld ≤ text.length then deliver text
  else if !text.isEmpty then
    modify fun r => { r with held := text :: r.held, heldLength := r.heldLength + text.length }

def complainAt (line : Nat) (message : String) : Act Unit := do
  let r ← get
  let speaker := r.speaker?.elim "" fun s => s!"{s}: "
  let _ ← write 2 s!"{r.zero}: {line}: {speaker}{message}\n"

def complain (message : String) : Act Unit := do complainAt (← get).line message

def failureStatus : Nat := 2

def failAt {α : Type} (line : Nat) (message : String) : Act α := do
  complainAt line message
  modify fun r => { r with status := failureStatus }
  failed

def fail {α : Type} (message : String) : Act α := do failAt (← get).line message

def attempt {α : Type} (a : Act α) : Act (Option α) := do
  tryCatch (do return some (← a)) fun
    | .failure => return none
    | h => throw h

def ensuring {α : Type} (a : Act α) (after : Act Unit) : Act α := do
  let x ← tryCatch a fun h => do
    after
    throw h
  after
  return x

def setStatus (status : Nat) : Act Unit := modify fun r => { r with status }

end Act

/-- A number worked out from the characters of a name, of which the first counts for more. -/
def weight (name : String) : Nat :=
  let codes := name.toList.map Char.toNat
  16 * codes.headD 0 + codes.foldl (· + ·) 0

def rank (name : String) : Nat := weight name % 39

/-- What names stand for, as it is listed: names of one rank in the order in which they
came to be. -/
def byRank {α : Type} (entries : List (String × α)) : List (String × α) :=
  entries.mergeSort fun a b => rank a.1 ≤ rank b.1

def put {κ α : Type} [DecidableEq κ] (name : κ) (x : α) : List (κ × α) → List (κ × α)
  | [] => [(name, x)]
  | e :: rest => if e.1 = name then (name, x) :: rest else e :: put name x rest

namespace Run

def isOn (r : Run) (letter : Char) : Bool := r.options.contains letter

def binding? (r : Run) (name : String) : Option Variable :=
  (r.bindings.find? (·.1 = name)).map (·.2)

def valueOf? (r : Run) (name : String) : Option String := (r.binding? name).bind (·.value?)

def putVariable (r : Run) (name : String) (v? : Option Variable) : Run :=
  match v? with
  | none => { r with bindings := r.bindings.filter (·.1 ≠ name) }
  | some v => { r with bindings := put name v r.bindings }

def environment (r : Run) : List (String × String) :=
  (byRank r.bindings).filterMap fun (n, v) =>
    if v.exported then v.value?.map fun x => (n, x) else none

def searchPath (r : Run) : String := (r.valueOf? "PATH").getD ""

def function? (r : Run) (name : String) : Option Script :=
  (r.functions.find? (·.1 = name)).map (·.2)

def trap? (r : Run) (signal : Nat) : Option String :=
  (r.traps.find? (·.1 = signal)).map (·.2)

def separators (r : Run) : String := (r.valueOf? "IFS").getD " \t\n"

def param? (r : Run) (n : Nat) : Option String := if n = 0 then some r.zero else r.params[n - 1]?

end Run

namespace Act

def beginOptions (index : Nat) : Act Unit :=
  modify fun r => { r with optionIndex := index, letterPlace? := none }

def heavy : Nat := 1000

/-- Takes notice of the new value of a variable. The number of the next argument says where options
go on, and another search path may lead to other programs. -/
def notice (name value : String) : Act Unit := do
  if name = "OPTIND" then
    match Sum.count? value with
    | some n => beginOptions (max 1 n)
    | none => fail s!"Illegal number: {value}"
  else if name = "PATH" then modify fun r => { r with remembered := [] }

def refuseFixed (name : String) : Act Unit := do
  if ((← get).binding? name).any (·.fixed) then fail s!"{name}: is read only"

def assign (name value : String) (exports : Bool) : Act Unit := do
  refuseFixed name
  notice name value
  modify fun r =>
    let exported := exports || r.isOn 'a' || (r.binding? name).any (·.exported)
    r.putVariable name (some ⟨some value, exported, false⟩)
  if heavy ≤ value.length then perform (Routine.work (value.length / 100))

def unassign (name : String) : Act Unit := do
  refuseFixed name
  notice name ""
  modify fun r => r.putVariable name none

def adjust (name : String) (f : Variable → Variable) : Act Unit :=
  modify fun r => r.putVariable name (some (f ((r.binding? name).getD ⟨none, false, false⟩)))

def openLevel : Act Unit := modify fun r => { r with saved := ⟨[], none⟩ :: r.saved }

def onLevel (f : Run → Level → Level) : Act Unit :=
  modify fun r =>
    match r.saved with
    | level :: rest => { r with saved := f r level :: rest }
    | [] => r

def keep (name : String) : Act Unit :=
  onLevel fun r level =>
    if level.bindings.any (·.1 = name) then level
    else { level with bindings := (name, r.binding? name) :: level.bindings }

def keepOptions : Act Unit :=
  onLevel fun r level => { level with options? := level.options?.or (some r.options) }

def putBack : List (String × Option Variable) → Act Unit
  | [] => return ()
  | (name, v?) :: rest => do
    notice name ((v?.bind (·.value?)).getD "")
    modify fun r => r.putVariable name v?
    putBack rest

def closeLevel : Act Unit := do
  match (← get).saved with
  | level :: rest => do
    modify fun r => { r with saved := rest, options := level.options?.getD r.options }
    putBack level.bindings
  | [] => return ()

end Act

end SupervisedShell.Script
