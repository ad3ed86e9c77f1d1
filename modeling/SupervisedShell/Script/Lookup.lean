import SupervisedShell.Script.Grammar
import SupervisedShell.Script.Run

set_option autoImplicit false

namespace SupervisedShell.Script

def regularNames : List String :=
  ["alias", "bg", "cd", "chdir", "command", "echo", "false", "fg", "getopts", "hash",
    "jobs", "kill",
    "printf", "pwd", "read", "test", "[", "true", "type", "ulimit", "umask", "unalias", "wait"]

inductive Meaning where
  | special
  | function (body : Script)
  | builtin
  | program (index : Nat) (path : String)
  | missing (e : IoError)

def candidates (searchPath name : String) : List String :=
  (searchPath.splitOn ":").map fun directory =>
    if directory.isEmpty then name else s!"{directory}/{name}"

def isPath (name : String) : Bool := name.toList.contains '/'

/-- The first candidate that can be run, or the fault of what is there instead. Where a program is
looked up again, candidates in fixed directories up to the one that it was are not looked at. -/
def firstProgram (t : Task) (w : World) (again? : Option Nat) (index : Nat) (e : IoError) :
    List String → Meaning
  | [] => .missing e
  | c :: rest =>
    let isFixed := c.toList.head? = some '/'
    if isFixed && again?.any (index < ·) then firstProgram t w again? (index + 1) e rest
    else if isFixed && again? = some index then .program index c
    else
      match t.walk w c with
      | .ok (_, n) =>
        if n.isRegular && n.permits .execute then .program index c
        else firstProgram t w again? (index + 1) Errno.denied rest
      | .error f =>
        firstProgram t w again? (index + 1)
          (if f = Errno.notFound || f = Errno.notDirectory then e else f)
          rest

namespace Act

def known? (name : String) : Act (Option Known) := do
  return ((← get).remembered.find? (·.1 = name)).map (·.2)

def memorize (name : String) (k : Known) : Act Unit :=
  modify fun r => { r with remembered := put name k r.remembered }

def forget (name : String) : Act Unit :=
  modify fun r => { r with remembered := r.remembered.filter (·.1 ≠ name) }

def usualProgram (name : String) : Act Meaning := do
  let r ← get
  match ← known? name with
  | some ⟨index, path, false⟩ => return .program index path
  | known? => do
    let again? := known?.map (·.index)
    match ← seen fun t w => firstProgram t w again? 0 Errno.notFound
      (candidates r.searchPath name) with
    | .program index path => do
      memorize name ⟨index, path, false⟩
      return .program index path
    | m => do
      forget name
      return m

/-- Looks a program up, in other directories than usual if they are given. A name with a slash is a
path, whatever is there. -/
def program (other? : Option String) (name : String) : Act Meaning := do
  if isPath name then return .program 0 name
  else
    match other? with
    | none => usualProgram name
    | some searchPath =>
      seen fun t w => firstProgram t w none 0 Errno.notFound (candidates searchPath name)

def meaning (functions : Bool) (other? : Option String) (name : String) : Act Meaning := do
  if specialNames.contains name then return .special
  else
    let r ← get
    match if functions then r.function? name else none with
    | some body => return .function body
    | none => if regularNames.contains name then return .builtin else program other? name

/-- Remembers the program of a stage before it starts, if its name is a plain word. -/
def lookAhead (stage : Script) : Act Unit := do
  match stage with
  | .command _ _ (w :: _) _ =>
    match Word.plain? w with
    | some name => if isName name then let _ ← meaning true none name
    | none => return ()
  | _ => return ()

end Act

def missingReason (e : IoError) : String :=
  if e = Errno.notFound || e = Errno.notDirectory then "not found" else Program.reason e

end SupervisedShell.Script
