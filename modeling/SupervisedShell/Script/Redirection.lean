import SupervisedShell.Script.Expansion
import SupervisedShell.Script.Process

set_option autoImplicit false

namespace SupervisedShell.Script.Redirect

/-- A redirection whose words are expanded, but for a document, which is when it is opened. -/
inductive Target where
  | file (n : Nat) (access : Access) (path : String)
  | duplicate (n source : Nat)
  | close (n : Nat)
  | document (n : Nat) (word : Word)

def target (capture : Script → Act String) : Redirect → Act Target
  | .file n access w => do return .file n access (← Expansion.text capture w)
  | .duplicate n w => do
    match (← Expansion.text capture w).toList with
    | ['-'] => return .close n
    | [c] =>
      if c.isDigit then return .duplicate n (c.toNat - '0'.toNat)
      else Act.fail "Syntax error: Bad fd number"
    | _ => Act.fail "Syntax error: Bad fd number"
  | .document n id => do
    let d? := (← get).documents.find? (·.id = id)
    return .document n (d?.elim [] Document.word)

def targets (capture : Script → Act String) : List Redirect → Act (List Target)
  | [] => return []
  | r :: rest => do
    let first ← target capture r
    return first :: (← targets capture rest)

def reason (reads : Bool) (e : IoError) : String :=
  if e = Errno.notFound || e = Errno.notDirectory then
    if reads then "No such file" else "Directory nonexistent"
  else Program.reason e

def purpose (r : Run) : Access → Purpose
  | .read => .reading
  | .write => if r.isOn 'C' then .creating else .writing
  | .clobber => .writing
  | .append => .appending
  | .readWrite => .both

def close (n : Nat) : Act Unit := Act.change fun t w => w.close t.pid n

def pipe : Act (Nat × Nat) := do
  match ← Act.call fun t w => w.openPipe t.pid with
  | .ok ends => return ends
  | .error _ => Act.fail "Pipe call failed"

def longestDocument : Nat := 4096

def undisturbed : List Nat := [1, 2, 3, 20]

def writeDocument (text : String) (ends : Nat × Nat) : Act Nat := do
  let (reading, writing) := ends
  if text.length ≤ longestDocument then
    let _ ← Act.write writing text
  else
    let _ ← Act.launch fun t _ => do
      Routine.change fun w =>
        (w.close t.pid reading).update t.pid fun p =>
          { p with
            ignored := undisturbed ++ p.ignored.filter (· ≠ World.pipeSignal)
            caught := [] }
      let _ ← t.write writing text
      return .exited 0
  close writing
  return reading

/-- Opens what a redirection asks for, if it asks for anything that is not there yet. -/
def openTarget (capture : Script → Act String) : Target → Act (Option Nat)
  | .file _ access path => do
    let p := purpose (← get) access
    match ← Act.call fun t w => t.openFile path p w with
    | .ok n => return some n
    | .error e =>
      let reads := access = .read
      let verb := if reads then "open" else "create"
      Act.fail s!"cannot {verb} {path}: {reason reads e}"
  | .duplicate _ source => return some source
  | .close _ => return none
  | .document _ w => do
    let ends ← pipe
    let text ← Expansion.quoted capture w
    return some (← writeDocument text ends)

def Target.number : Target → Nat
  | .file n .. | .duplicate n _ | .close n | .document n _ => n

def Target.isOwn : Target → Bool
  | .file .. | .document .. => true
  | _ => false

def leastKept : Nat := 10

/-- Keeps what is behind a number under another one, that no program gets. -/
def keep (n : Nat) : Act Former := do
  match ← Act.call fun t w => w.duplicateFrom t.pid n leastKept true with
  | .ok k => do
    close n
    return .kept k
  | .error e => do
    if e = Errno.badDescriptor then return .nothing
    close n
    Act.fail s!"{n}: {Program.reason e}"

/-- Remembers what stood behind a number before the first redirection of it. -/
def remember (n : Nat) (new? : Option Nat) : Act Unit := do
  let level := (← get).replaced.headD []
  let former ←
    match level.find? (·.1 = n) with
    | some (_, former) => pure former
    | none => if new? = some n then pure .nothing else keep n
  let former := if former = .nothing && new?.isNone then .untouched else former
  modify fun r => { r with replaced := put n former level :: r.replaced.tail }

def settle (t : Target) (new? : Option Nat) : Act Unit := do
  match new? with
  | none => close t.number
  | some new =>
    if new ≠ t.number then
      match ← Act.call fun task w => w.duplicate task.pid new t.number with
      | .ok () => if t.isOwn then close new
      | .error e => do
        if t.isOwn then close new
        Act.fail s!"{new}: {Program.reason e}"

def isIdle : Target → Bool
  | .duplicate n source => n = source
  | _ => false

def openAll (capture : Script → Act String) (remembers : Bool) : List Target → Act Unit
  | [] => return ()
  | t :: rest => do
    if !isIdle t then
      let new? ← openTarget capture t
      if remembers then remember t.number new?
      settle t new?
    openAll capture remembers rest

def putBack (drops : Bool) (n : Nat) (former : Former) : Act Unit := do
  match former with
  | .kept k => do
    if !drops then
      let _ ← Act.call fun t w => w.duplicate t.pid k n
    close k
  | .nothing => if !drops then close n
  | .untouched => return ()

def putAllBack (drops : Bool) : List (Nat × Former) → Act Unit
  | [] => return ()
  | (n, former) :: rest => do
    putBack drops n former
    putAllBack drops rest

def push : Act Unit := modify fun r => { r with replaced := [] :: r.replaced }

def pop (drops : Bool) : Act Unit := do
  let level := (← get).replaced.headD []
  modify fun r => { r with replaced := r.replaced.tail }
  putAllBack drops (level.mergeSort fun a b => a.1 ≤ b.1)

/-- Does something with redirections in force. They may fail, in which case something else is done.
They may stay in force, but not where the run does not go on. -/
def around {α : Type} (capture : Script → Act String) (ts : List Target) (stays : Bool)
    (failed : Act α) (body : Act α) : Act α := do
  if ts.isEmpty then body
  else
    push
    let inForce : Act α := do
      match ← Act.attempt (openAll capture true ts) with
      | some () => body
      | none => failed
    let x ← tryCatch inForce fun h => do
      pop false
      throw h
    pop stays
    return x

end SupervisedShell.Script.Redirect
