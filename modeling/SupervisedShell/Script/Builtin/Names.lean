import SupervisedShell.Script.Builtin.Variables
import SupervisedShell.Script.Lookup

set_option autoImplicit false

namespace SupervisedShell.Script.Builtin

/-- Tells what a name stands for, in a sentence or in short. Programs are looked up in other
directories than usual if they are given. -/
def describe (verbose : Bool) (other? : Option String) (name : String) : Act Nat := do
  let tell (long short : String) : Act Nat := do
    Act.say ((if verbose then s!"{name} {long}" else short) ++ "\n")
    return 0
  if (Keyword.ofText? name).isSome then tell "is a shell keyword" name
  else
    match (← get).aliases.find? (·.1 = name) with
    | some (_, text) => tell s!"is an alias for {text}" s!"alias {name}={quoted text}"
    | none => do
      let known? ← if other?.isNone && !isPath name then Act.known? name else pure none
      match ← Act.meaning true other? name with
      | .special => tell "is a special shell builtin" name
      | .function _ => tell "is a shell function" name
      | .builtin => tell "is a shell builtin" name
      | .program _ path =>
        match known? with
        | some k => tell s!"is a tracked alias for {k.path}" k.path
        | none => do
          let isThere ← Act.seen fun t w => (t.walk w path).isOk
          if isThere then tell s!"is {path}" path else missing
      | .missing _ => missing
where
  missing : Act Nat := do
    if verbose then Act.say s!"{name}: not found\n"
    return 127

def describeAll (status : Nat) : List String → Act Nat
  | [] => return status
  | name :: rest => do
    let code ← describe true none name
    describeAll (status ||| code) rest

def type : Command := describeAll 0

def usualPath : String := "/usr/local/sbin:/usr/local/bin:/usr/sbin:/usr/bin:/sbin:/bin"

def describeCommand : Command := fun args => do
  let (given, names) ← options ⟨['p', 'v', 'V'], []⟩ none args
  let letters := given.map (·.1)
  let other? := if letters.contains 'p' then some usualPath else none
  match names with
  | name :: _ =>
    if letters.contains 'V' then describe true other? name
    else if letters.contains 'v' then describe false other? name
    else return 0
  | [] => return 0

def hashAll (status : Nat) : List String → Act Nat
  | [] => return status
  | name :: rest => do
    Act.forget name
    match ← Act.meaning true none name with
    | .missing e => do
      Act.complain s!"{name}: {missingReason e}"
      hashAll 1 rest
    | _ => hashAll status rest

def programRank (name : String) : Nat := weight name % 32768 % 31

def hash : Command := fun args => do
  let (given, names) ← options ⟨['r'], []⟩ none args
  if !given.isEmpty then
    modify fun r => { r with remembered := [] }
    return 0
  else if names.isEmpty then
    let known := (← get).remembered.mergeSort fun a b => programRank a.1 ≤ programRank b.1
    let line (k : Known) : String := k.path ++ (if k.stale then "*" else "") ++ "\n"
    Act.say (String.join (known.map fun (_, k) => line k))
    return 0
  else hashAll 0 names

end SupervisedShell.Script.Builtin
