import SupervisedShell.Script.Builtin.Jobs
/-!
Commands about signals.
-/

set_option autoImplicit false

namespace SupervisedShell.Script.Builtin

def signalNames : List (String × Nat) :=
  (Signal.names.zipIdx.map fun (n, i) => (n, i + 1)).filter (·.1 ≠ "STKFLT") ++
  [("RTMIN", Signal.firstFree), ("RTMAX", Signal.last)] ++
  (List.range 15).map (fun i => (s!"RTMIN+{i + 1}", Signal.firstFree + i + 1)) ++
  (List.range 14).map (fun i => (s!"RTMAX-{i + 1}", Signal.last - i - 1))

def isNumber (s : String) : Bool := !s.isEmpty && s.toList.all Char.isDigit

/-- A signal by its number or its name. Number 0 is that of the exit, which has a name
only for traps. -/
def signal? (exits : Bool) (s : String) : Option Nat :=
  if isNumber s then
    match s.toNat? with
    | some n => if n ≤ Signal.last then some n else none
    | none => none
  else if exits && s.toUpper = "EXIT" then some 0
  else (signalNames.find? (·.1 = s.toUpper)).map (·.2)

def nameOf (signal : Nat) : String :=
  if signal = 0 then "EXIT"
  else ((signalNames.find? (·.2 = signal)).map (·.1)).getD (toString signal)

def killUsage {α : Type} : Act α :=
  Act.fail "Usage: kill [-s sigspec | -signum | -sigspec] [pid | job]... or\nkill -l [exitstatus]"

/-- The process that a number or a job stands for. Those behind a dash are groups, of which there
are none besides that of the script. -/
def target? (s : String) : Act (Option Nat) := do
  match s.toList with
  | '%' :: _ => do
    let _ ← namedJob s
    return none
  | '-' :: cs => do
    let _ ← number (String.ofList cs)
    return none
  | _ => return some (← number s)

def send (signal : Nat) (pid? : Option Nat) : Act Nat := do
  let r ←
    match pid? with
    | some pid => Act.call fun _ w => w.signal pid signal
    | none => pure (.error Errno.noSuchProcess)
  match r with
  | .ok () => return 0
  | .error e => do
    Act.complain s!"{Program.reason e}\n"
    return 1

def killAll (signal status : Nat) : List String → Act Nat
  | [] => return status
  | s :: rest => do
    let code ← send signal (← target? s)
    killAll signal (max status code) rest

def listSignals : List String → Act Nat
  | [] => do
    let lines := (List.range Signal.last).map fun i => nameOf (i + 1) ++ "\n"
    Act.say ("0\n" ++ String.join lines)
    return 0
  | s :: _ => do
    let n ← number s
    let n := if 128 < n then n - 128 else n
    if n = 0 || Signal.last < n then Act.fail s!"invalid signal number or exit status: {s}"
    else
      Act.say (nameOf n ++ "\n")
      return 0

def kill : Command := fun args => do
  let direct? : Option Nat :=
    match args.map String.toList with
    | ('-' :: cs) :: _ => signal? false (String.ofList cs)
    | _ => none
  match args, direct? with
  | [], _ => killUsage
  | _ :: rest, some n => if rest.isEmpty then killUsage else killAll n 0 rest
  | args, none => do
    let (given, operands) ← options ⟨['l'], ['s']⟩ none args
    if given.any (·.1 = 'l') then listSignals operands
    else
      let signal ←
        match (given.map (·.2)).getLast? with
        | none => pure Signal.terminate
        | some s =>
          match signal? false s with
          | some n => pure n
          | none => Act.fail s!"invalid signal number or name: {s}"
      if operands.isEmpty then killUsage else killAll signal 0 operands

def setTraps (action? : Option String) : List String → Act Nat
  | [] => return 0
  | s :: rest => do
    match signal? true s with
    | none => do
      let _ ← Act.write 2 s!"trap: {s}: bad trap\n"
      return 1
    | some n => do
      modify fun r =>
        let others := r.traps.filter (·.1 ≠ n)
        { r with traps := (action?.map fun a => (n, a)).toList ++ others }
      if n ≠ 0 then Act.heed n
      setTraps action? rest

def trap : Command := fun args => do
  match ← operands args with
  | [] => do
    let traps := (← get).traps.mergeSort fun a b => a.1 ≤ b.1
    let lines := traps.map fun (n, action) => s!"trap -- {quoted action} {nameOf n}\n"
    Act.say (String.join lines)
    return 0
  | [s] => setTraps none [s]
  | action :: names =>
    if isNumber action && (signal? true action).isSome then setTraps none (action :: names)
    else setTraps (if action = "-" then none else some action) names

end SupervisedShell.Script.Builtin
