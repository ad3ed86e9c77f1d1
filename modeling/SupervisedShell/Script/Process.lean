import SupervisedShell.Script.Run

set_option autoImplicit false

namespace SupervisedShell.Script

def Run.standsLike (r s : Run) : Bool :=
  r.bindings = s.bindings && r.params = s.params && r.status = s.status && r.options = s.options &&
    r.functions.map (·.1) = s.functions.map (·.1) && r.aliases = s.aliases && r.traps = s.traps &&
    r.pending = s.pending && r.jobs = s.jobs && r.optionIndex = s.optionIndex &&
    r.letterPlace? = s.letterPlace? && r.task.directory = s.task.directory &&
    r.task.umask = s.task.umask && r.replaced = s.replaced

def interrupt : Nat := 2

def codeOf : WaitStatus → Nat
  | .exited code => code
  | .signaled signal _ | .stopped signal => 128 + signal
  | .continued => 0

/-- What is said of a child that did not end by itself. Some ends go without saying. -/
def obituary? : WaitStatus → Option String
  | .signaled signal dumped =>
    if signal = interrupt || signal = World.pipeSignal then none
    else some (Signal.description signal ++ if dumped then " (core dumped)" else "")
  | _ => none

def Job.note (pid : Nat) (status : WaitStatus) (j : Job) : Job :=
  { j with stages := j.stages.map fun s => if s.1 = pid then (pid, some status) else s }

def Job.code (j : Job) : Nat := (j.stages.getLast?.bind (·.2)).elim 0 codeOf

namespace Act

def heed (signal : Nat) : Act Unit := do
  let r ← get
  change fun t w => w.update t.pid fun p =>
    let caught := p.caught.filter (· ≠ signal)
    let ignored := p.ignored.filter (· ≠ signal)
    if r.deaf.contains signal then { p with caught, ignored := signal :: ignored }
    else
      match r.trap? signal with
      | none => { p with caught, ignored }
      | some "" => { p with caught, ignored := signal :: ignored }
      | some _ => { p with caught := signal :: caught, ignored }

def isDisturbed (r : Run) (t : Task) (w : World) : Bool :=
  !r.pending.isEmpty || (w.process? t.pid).any fun p => !p.pending.isEmpty

def takeSignals : Act Unit := do
  let came ← seen fun t w => (w.process? t.pid).elim [] (·.pending)
  if !came.isEmpty then
    change fun t w => w.update t.pid fun p => { p with pending := [] }
    modify fun r => { r with pending := r.pending.filter (!came.contains ·) ++ came }

/-- The number of a new job: the first that no job has, or none but one that is over
and done with. -/
def freeJob (jobs : List Job) : Nat :=
  let isFree (n : Nat) : Bool := jobs.all fun j => j.number ≠ n || (j.isDone && j.waited)
  ((List.range (jobs.length + 1)).map (· + 1)).find? isFree |>.getD (jobs.length + 1)

def addJob (pids : List Nat) : Act Nat :=
  modifyGet fun r =>
    let number := freeJob r.jobs
    let j : Job := ⟨number, pids.map fun pid => (pid, none), false⟩
    (number, { r with jobs := j :: r.jobs.filter (·.number ≠ number) })

def job? (r : Run) (number : Nat) : Option Job := r.jobs.find? (·.number = number)

def dropJob (number : Nat) : Act Unit :=
  modify fun r => { r with jobs := r.jobs.filter (·.number ≠ number) }

def settleJob (number : Nat) : Act Unit :=
  modify fun r =>
    { r with jobs := r.jobs.map fun j => if j.number = number then { j with waited := true }
      else j }

/-- Learns of the end of a child. It is told if the job is the one that is waited for. -/
def learn (waitedFor? : Option Nat) (pid : Nat) (status : WaitStatus) : Act Unit := do
  let r ← get
  let own := r.jobs.find? fun j => j.stages.any fun s => s.1 = pid && s.2.isNone
  set { r with jobs := r.jobs.map (Job.note pid status) }
  match own, obituary? status with
  | some j, some text => if some j.number = waitedFor? then let _ ← write 2 (text ++ "\n")
  | _, _ => return ()

inductive Event where
  | ended (pid : Nat) (status : WaitStatus)
  | disturbed
  | nothing

def nextEvent? (r : Run) (disturbable : Bool) (t : Task) (w : World) : Option (Event × World) :=
  match w.collect? t.pid with
  | some ((pid, status), w) => some (.ended pid status, w)
  | none =>
    if disturbable && isDisturbed r t w then some (.disturbed, w)
    else if w.processes.any (·.parent = t.pid) then none
    else some (.nothing, w)

def learnAll (waitedFor? : Option Nat) : (children : Nat) → Act Unit
  | 0 => return ()
  | n + 1 => do
    match ← call fun t w => (w.collect? t.pid).elim (none, w) fun (e, w) => (some e, w) with
    | none => return ()
    | some (pid, status) => do
      learn waitedFor? pid status
      learnAll waitedFor? n

def mostChildren : Nat := 1000000

/-- Learns of ends until a job is over. Tells whether it is: a signal may come before. -/
def awaitJob (disturbable : Bool) (number : Nat) : (children : Nat) → Act Bool
  | 0 => return true
  | n + 1 => do
    let r ← get
    if (job? r number).all Job.isDone then
      learnAll (some number) n
      return true
    else
      match ← await (nextEvent? r disturbable) with
      | .disturbed => return false
      | .nothing => return true
      | .ended pid status => do
        learn (some number) pid status
        awaitJob disturbable number n

/-- Waits for processes in front, which are no job any more then. -/
def awaitFront (pids : List Nat) : Act Nat := do
  let number ← addJob pids
  let _ ← awaitJob false number mostChildren
  let code := (job? (← get) number).elim 0 Job.code
  dropJob number
  return code

def childTask (t : Task) (pid : Nat) : Task := { t with pid := pid, parent := t.pid }

def launch (body : Task → Run → Routine WaitStatus) : Act Nat := do
  let r ← get
  perform (Routine.fork fun pid => body (childTask r.task pid) r .over)

end Act

end SupervisedShell.Script
