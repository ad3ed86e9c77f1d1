import SupervisedShell.Script.Builtin.Variables

set_option autoImplicit false

namespace SupervisedShell.Script.Builtin

def pathOf (p : Place) : String := "/" ++ "/".intercalate (p.map Octets.ofBytes)

def rootOf (path : String) : String :=
  if (path.toList.takeWhile (· = '/')).length = 2 then "//" else "/"

def joinPath (origin path : String) : String :=
  let absolute := path.toList.head? = some '/'
  let start := if absolute then [] else (origin.splitOn "/").filter (· ≠ "")
  let step (names : List String) (name : String) : List String :=
    if name = "" || name = "." then names
    else if name = ".." then names.dropLast
    else names ++ [name]
  rootOf (if absolute then path else origin) ++
    "/".intercalate ((path.splitOn "/").foldl step start)

/-- Goes to a directory, and remembers the one before. Programs have to be looked up again. -/
def enter (physical : Bool) (path : String) : Act Bool := do
  let r ← get
  let goal := if physical then path else joinPath r.whereabouts path
  match ← Act.seen fun t w => t.walk w goal with
  | .ok (p, .directory mode) =>
    if mode &&& Right.execute.bit = 0 then return false
    else
      modify fun r =>
        { r with
          task := { r.task with directory := p }
          whereabouts := if physical then pathOf p else goal
          remembered := r.remembered.map fun (n, k) => (n, { k with stale := true }) }
      Act.assign "OLDPWD" r.whereabouts true
      Act.assign "PWD" (← get).whereabouts true
      return true
  | _ => return false

def bases (r : Run) (path : String) : List String :=
  match path.toList with
  | '/' :: _ | '.' :: _ => [""]
  | _ => ((r.valueOf? "CDPATH").getD "").splitOn ":"

def enterFirst (physical : Bool) (path : String) : List String → Act (Option Bool)
  | [] => return none
  | base :: rest => do
    if ← enter physical (if base.isEmpty then path else s!"{base}/{path}") then
      return some (!base.isEmpty)
    else enterFirst physical path rest

def cd : Command := fun args => do
  let (given, operands) ← options ⟨['L', 'P'], []⟩ none args
  let physical := (given.map (·.1)).getLast? = some 'P'
  let r ← get
  let back := operands.head? = some "-"
  let path :=
    match operands with
    | "-" :: _ => (r.valueOf? "OLDPWD").getD ""
    | p :: _ => p
    | [] => (r.valueOf? "HOME").getD ""
  let path := if path.isEmpty then "." else path
  let bases := bases r path
  match ← enterFirst physical path (if bases.contains "" then bases else bases ++ [""]) with
  | some found => do
    if back || found then Act.say ((← get).whereabouts ++ "\n")
    return 0
  | none => Act.fail s!"can't cd to {path}"

def pwd : Command := fun args => do
  let (given, _) ← options ⟨['L', 'P'], []⟩ none args
  let r ← get
  let physical := (given.map (·.1)).getLast? = some 'P'
  Act.say ((if physical then pathOf r.task.directory else r.whereabouts) ++ "\n")
  return 0

end SupervisedShell.Script.Builtin
