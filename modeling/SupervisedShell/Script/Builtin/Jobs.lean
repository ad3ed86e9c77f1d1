import SupervisedShell.Script.Builtin.Variables
/-!
Commands about the processes that run beside the script.
-/

set_option autoImplicit false

namespace SupervisedShell.Script.Builtin

/-- A job by what stands behind a percent sign. The commands of jobs are not known, so that only a
question for nothing at all fits one. -/
def namedJob (s : String) : Act Job := do
  let jobs := (← get).jobs
  let found (message : String) (j? : Option Job) : Act Job :=
    match j? with
    | some j => return j
    | none => Act.fail message
  match s.toList with
  | ['%'] | ['%', '+'] | ['%', '%'] => found "No current job" jobs.head?
  | ['%', '-'] => found "No previous job" jobs.tail.head?
  | ['%', '?'] =>
    if 1 < jobs.length then Act.fail s!"{s}: ambiguous" else found s!"No such job: {s}" jobs.head?
  | '%' :: cs =>
    let number? := if cs.all Char.isDigit then (String.ofList cs).toNat? else none
    found s!"No such job: {s}" (number?.bind fun n => jobs.find? (·.number = n))
  | _ => Act.fail s!"No such job: {s}"

/-- How a job is listed. -/
inductive Listing where
  | plain
  | processes
  | leader
  deriving DecidableEq, Repr

def ending : WaitStatus → String
  | .exited 0 => "Done"
  | .exited code => s!"Done({code})"
  | .signaled signal dumped => Signal.description signal ++ if dumped then " (core dumped)" else ""
  | .stopped signal => Signal.description signal
  | .continued => "Running"

def commandColumn : Nat := 33

/-- A text up to the column of commands, but at least with a blank behind it. -/
def padded (s : String) : String :=
  s ++ String.ofList (List.replicate (max 1 (commandColumn - s.length)) ' ')

def jobText (l : Listing) (jobs : List Job) (j : Job) : String :=
  let isAt (n : Nat) : Bool := (jobs[n]?).any (·.number = j.number)
  let mark := if isAt 0 then "+" else if isAt 1 then "-" else " "
  let head := s!"[{j.number}] {mark} "
  let state :=
    if j.isDone then ((j.stages.getLast?.bind (·.2)).map ending).getD "Done" else "Running"
  let pids := j.stages.map fun s => toString s.1
  match l with
  | .leader => pids.headD "" ++ "\n"
  | .plain => padded (head ++ state) ++ String.join (pids.tail.map fun _ => " | ") ++ "\n"
  | .processes =>
    let indent := String.ofList (List.replicate head.length ' ')
    let behind := pids.tail.map fun pid =>
      " |\n" ++ indent ++ pid ++ " " ++
        String.ofList (List.replicate (max 1 (commandColumn - (head.length + pid.length + 1))) ' ')
    padded (head ++ pids.headD "" ++ " " ++ state) ++ String.join behind ++ "\n"

def showJob (l : Listing) (number : Nat) : Act Unit := do
  let r ← get
  match Act.job? r number with
  | none => return ()
  | some j => do
    Act.say (jobText l r.jobs j)
    if j.isDone && l ≠ Listing.leader then Act.dropJob number

def jobs : Command := fun args => do
  let (given, names) ← options ⟨['l', 'p'], []⟩ none args
  let l : Listing :=
    match (given.map (·.1)).getLast? with
    | some 'l' => .processes
    | some _ => .leader
    | none => .plain
  if names.isEmpty then
    Act.learnAll none Act.mostChildren
    (← get).jobs.forM fun j => showJob l j.number
  else
    names.forM fun s => do
      let j ← namedJob s
      showJob l j.number
  return 0

/-- Without a terminal no job can be brought to the front, or be told to go on behind it. -/
def move : Command := fun args => do
  let names ← operands args
  match names with
  | [] =>
    if (← get).jobs.isEmpty then Act.fail "No current job"
    else Act.fail "job (null) not created under job control"
  | s :: _ => do
    let _ ← namedJob s
    Act.fail s!"job {s} not created under job control"

def disturbed : Act Nat := do
  Act.takeSignals
  return 128 + (← get).pending.getLastD 0

def waitAll : (children : Nat) → Act Nat
  | 0 => return 0
  | n + 1 => do
    let r ← get
    if r.jobs.all Job.isDone then
      modify fun r => { r with jobs := r.jobs.map fun j => { j with waited := true } }
      return 0
    else
      match ← Act.await (Act.nextEvent? r true) with
      | .disturbed => disturbed
      | .nothing => return 0
      | .ended pid status => do
        Act.learn none pid status
        waitAll n

def waitFor (status : Nat) : List String → Act Nat
  | [] => return status
  | s :: rest => do
    let found? ←
      if s.toList.head? = some '%' then do pure (some (← namedJob s))
      else do
        let pid ← number s
        pure ((← get).jobs.find? fun j => (j.stages.getLast?).any (·.1 = pid))
    match found? with
    | none => waitFor status rest
    | some j => do
      if ← Act.awaitJob true j.number Act.mostChildren then
        Act.settleJob j.number
        let code := (Act.job? (← get) j.number).elim 0 Job.code
        waitFor code rest
      else disturbed

def wait : Command := fun args => do
  match ← operands args with
  | [] => waitAll Act.mostChildren
  | ps => waitFor 127 ps

end SupervisedShell.Script.Builtin
