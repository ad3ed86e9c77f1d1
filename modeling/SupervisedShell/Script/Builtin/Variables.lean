import SupervisedShell.Script.Builtin.Operand
import SupervisedShell.Script.Process
/-!
Commands about variables, parameters and aliases.
-/

set_option autoImplicit false

namespace SupervisedShell.Script.Builtin

def quoted (s : String) : String :=
  let apart := "'\"'\"'".toList
  String.ofList ('\x27' :: (apart.intercalate (s.toList.splitOnP (· = '\x27')) ++ ['\x27']))

def sortedVariables (r : Run) : List (String × Variable) :=
  r.bindings.mergeSort fun a b => a.1 ≤ b.1

def setting (s : String) : String × Option String :=
  let name := s.toList.takeWhile (· ≠ '=')
  if name.length < s.length then
    (String.ofList name, some (String.ofList (s.toList.drop (name.length + 1))))
  else (s, none)

def checkName (name : String) : Act Unit :=
  if isName name then return () else Act.fail s!"{name}: bad variable name"

def showVariables (command : String) (shown : Variable → Bool) : Act Unit := do
  let r ← get
  let lines := ((sortedVariables r).filter fun v => shown v.2).map fun (n, v) =>
    s!"{command} {n}" ++ (v.value?.elim "" fun x => "=" ++ quoted x) ++ "\n"
  Act.say (String.join lines)

def mark (f : Variable → Variable) : List String → Act Unit
  | [] => return ()
  | s :: rest => do
    let (name, value?) := setting s
    checkName name
    match value? with
    | some v => Act.assign name v false
    | none => pure ()
    Act.adjust name f
    mark f rest

def marking (command : String) (f : Variable → Variable) (shown : Variable → Bool) : Command :=
  fun args => do
    let (given, names) ← options ⟨['p'], []⟩ none args
    if names.isEmpty || !given.isEmpty then showVariables command shown else mark f names
    return 0

def exports : Command := marking "export" (fun v => { v with exported := true }) (·.exported)

def readonly : Command := marking "readonly" (fun v => { v with fixed := true }) (·.fixed)

def unsetAll (functions : Bool) : List String → Act Unit
  | [] => return ()
  | name :: rest => do
    if functions then
      modify fun r => { r with functions := r.functions.filter (·.1 ≠ name) }
    else
      checkName name
      Act.unassign name
    unsetAll functions rest

def unset : Command := fun args => do
  let (given, names) ← options ⟨['v', 'f'], []⟩ none args
  unsetAll ((given.map (·.1)).getLast? = some 'f') names
  return 0

def localAll : List String → Act Unit
  | [] => return ()
  | "-" :: rest => do
    Act.keepOptions
    localAll rest
  | s :: rest => do
    let (name, value?) := setting s
    checkName name
    Act.keep name
    match value? with
    | some v => Act.assign name v false
    | none => pure ()
    localAll rest

def makeLocal : Command := fun args => do
  if (← get).saved.isEmpty then Act.fail "not in a function"
  localAll args
  return 0

def shift : Command := fun args => do
  let n ←
    match args with
    | [] => pure 1
    | s :: _ => number s
  let r ← get
  if r.params.length < n then Act.fail "can't shift that many"
  else
    set { r with params := r.params.drop n }
    Act.beginOptions 1
    return 0

def aliasLine (a : String × String) : String := s!"{a.1}={quoted a.2}\n"

def aliasAll (status : Nat) : List String → Act Nat
  | [] => return status
  | s :: rest => do
    match setting s with
    | (name, some value) =>
      modify fun r => { r with aliases := put name value r.aliases }
      aliasAll status rest
    | (name, none) =>
      match (← get).aliases.find? (·.1 = name) with
      | some a => do
        Act.say (aliasLine a)
        aliasAll status rest
      | none => do
        let _ ← Act.write 2 s!"alias: {name} not found\n"
        aliasAll 1 rest

def makeAlias : Command := fun args => do
  if args.isEmpty then
    Act.say (String.join ((byRank (← get).aliases).map aliasLine))
    return 0
  else aliasAll 0 args

def unaliasAll (status : Nat) : List String → Act Nat
  | [] => return status
  | name :: rest => do
    if (← get).aliases.any (·.1 = name) then
      modify fun r => { r with aliases := r.aliases.filter (·.1 ≠ name) }
      unaliasAll status rest
    else
      let _ ← Act.write 2 s!"unalias: {name} not found\n"
      unaliasAll 1 rest

def unalias : Command := fun args => do
  let (given, names) ← options ⟨['a'], []⟩ none args
  if !given.isEmpty then
    modify fun r => { r with aliases := [] }
    return 0
  else unaliasAll 0 names

end SupervisedShell.Script.Builtin
