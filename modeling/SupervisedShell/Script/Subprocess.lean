import SupervisedShell.Script.Lookup
import SupervisedShell.Script.Within

set_option autoImplicit false

namespace SupervisedShell.Script

def Run.copy (r : Run) (t : Task) : Run :=
  { r with
    task := t, traps := r.traps.filter (·.2 = ""), pending := [], jobs := [], replaced := [] }

namespace Within

def subprocess (x : Within) (a : Act Unit) : Act Nat :=
  Act.launch fun t r => x.conclude a (r.copy t)

/-- Puts a channel behind another number, and not behind its own one any more. -/
def move (source n : Nat) : Act Unit :=
  if source = n then return ()
  else do
    let _ ← Act.call fun t w => w.duplicate t.pid source n
    Redirect.close source

def unheard : List Nat := [2, 3]

/-- A process that nobody waits for does not act on some signals, and the first one of its job
reads nothing. -/
def standAside (reads : Bool) : Act Unit := do
  modify fun r => { r with deaf := unheard ++ r.deaf }
  Act.change fun t w => w.update t.pid fun p => { p with ignored := unheard ++ p.ignored }
  if !reads then
    Redirect.close 0
    let _ ← Act.call fun t w => w.open_ t.pid ⟨.device .null, true, false⟩

def addBackground (pids : List Nat) : Act Unit := do
  let _ ← Act.addJob pids
  modify fun r => { r with lastBackground? := pids.getLast?.or r.lastBackground? }

def readAll (n : Nat) : (pieces : Nat) → List String → Act String
  | 0, acc => return String.join acc.reverse
  | pieces + 1, acc => do
    match ← Act.await fun t w => w.read? t.pid n (.upTo (Pipe.mostPages * Page.size)) with
    | .fault _ | .bytes [] => return String.join acc.reverse
    | .bytes b => readAll n pieces (Octets.ofBytes (b.filter (· ≠ 0)) :: acc)

def capture (x : Within) (body : Script) : Act String := do
  match body with
  | .nothing => return ""
  | body => do
    let (reading, writing) ← Redirect.pipe
    let pid ← x.subprocess do
      Redirect.close reading
      move writing 1
      x.eval .last body
    Redirect.close writing
    let text ← readAll reading mostLines []
    Redirect.close reading
    let status ← Act.awaitFront [pid]
    modify fun s => { s with innerStatus := status }
    return text

def pipeBehind (input? : Option Nat) (isLast : Bool) : Act (Option (Nat × Nat)) :=
  if isLast then return none
  else
    tryCatch (do return some (← Redirect.pipe)) fun h => do
      input?.forM Redirect.close
      throw h

def startStages (x : Within) (p : Position) (background : Bool) (input? : Option Nat) :
    List Script → Act (List Nat)
  | [] => return []
  | stage :: rest => do
    Act.lookAhead stage
    let ends? ← pipeBehind input? rest.isEmpty
    let pid ← x.subprocess do
      if background then standAside input?.isSome
      ends?.forM fun ends => Redirect.close ends.1
      input?.forM fun n => if 0 < n then move n 0 else return ()
      ends?.forM fun ends => if 1 < ends.2 then move ends.2 1 else return ()
      x.eval { p with final := true } stage
    input?.forM Redirect.close
    ends?.forM fun ends => Redirect.close ends.2
    return pid :: (← x.startStages p background (ends?.map (·.1)) rest)

def pipeline (x : Within) (p : Position) (background : Bool) (stages : List Script) : Act Nat := do
  let pids ← x.startStages p background none stages
  if background then
    addBackground pids
    return 0
  else Act.awaitFront pids

def background (x : Within) (line : Nat) (body : Script) (rs : List Redirect) : Act Nat := do
  modify fun r => { r with line }
  let ts ← Redirect.targets x.capture rs
  let pid ← x.subprocess do
    standAside false
    Redirect.openAll x.capture false ts
    x.eval .last body
  addBackground [pid]
  return 0

/-- Runs commands between parentheses. Where nothing comes behind them, the process goes
over to them. -/
def subshell (x : Within) (p : Position) (line : Nat) (body : Script) (rs : List Redirect) :
    Act Nat := do
  modify fun r => { r with line }
  let ts ← Redirect.targets x.capture rs
  let inner : Act Unit := do
    Redirect.openAll x.capture false ts
    x.eval { p with final := true } body
  let acts ← hasTraps
  if p.final && !acts then
    inner
    return (← get).status
  else
    let pid ← x.subprocess inner
    Act.awaitFront [pid]

end Within

end SupervisedShell.Script
