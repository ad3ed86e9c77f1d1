import SupervisedShell.Script.Builtin.Variables
import SupervisedShell.Script.Pattern

set_option autoImplicit false

namespace SupervisedShell.Script.Builtin

/-- A line without its end; a backslash joins it to the next one unless it is read as it is. -/
def readLines (literal : Bool) : (lines : Nat) → List Letter → Act (List Letter × Bool)
  | 0, acc => return (acc, false)
  | n + 1, acc => do
    let (chars, ended) ← line n []
    let (letters, joins) := unescape chars
    if joins && ended then readLines literal n (acc ++ letters) else return (acc ++ letters, ended)
where
  line : (pieces : Nat) → List Char → Act (List Char × Bool)
    | 0, acc => return (acc, false)
    | n + 1, acc => do
      let r : Run ← get
      let interrupted (w : World) : Reading × World := (.fault Errno.interrupted, w)
      match ← Act.await fun t w =>
          (w.read? t.pid 0 .line).or
            (if Act.isDisturbed r t w then some (interrupted w) else none) with
      | .fault _ => return (acc, false)
      | .bytes b => do
        if b.isEmpty then return (acc, false)
        else
          let chars := (Octets.ofBytes b).toList.filter (· ≠ '\x00')
          if b.getLast? = some 0x0A then return (acc ++ chars.dropLast, true)
            else line n (acc ++ chars)
  unescape : List Char → List Letter × Bool
    | [] => ([], false)
    | '\\' :: rest =>
      if literal then
        let (ls, joins) := unescape rest
        (('\\', false) :: ls, joins)
      else
        match rest with
        | [] => ([], true)
        | c :: rest =>
          let (ls, joins) := unescape rest
          ((c, true) :: ls, joins)
    | c :: rest =>
      let (ls, joins) := unescape rest
      ((c, false) :: ls, joins)

def mostLines : Nat := 10000

def takeField (separators : List Char) (ls : List Letter) : List Letter × List Letter :=
  let separates (l : Letter) : Bool := !l.2 && separators.contains l.1
  let blank (l : Letter) : Bool := separates l && (l.1 = ' ' || l.1 = '\t' || l.1 = '\n')
  let field := ls.takeWhile fun l => !separates l
  let behind := (ls.drop field.length).dropWhile blank
  match behind with
  | l :: rest => if separates l then (field, rest.dropWhile blank) else (field, behind)
  | [] => (field, [])

/-- What the last variable gets: all that is left. A single separator at its end does not count. -/
def lastField (separators : List Char) (ls : List Letter) : List Letter :=
  let separates (l : Letter) : Bool := !l.2 && separators.contains l.1
  let blank (l : Letter) : Bool := separates l && (l.1 = ' ' || l.1 = '\t' || l.1 = '\n')
  let trimmed := (ls.reverse.dropWhile blank).reverse
  match takeField separators trimmed with
  | (field, []) => field
  | _ => trimmed

def assignFields (separators : List Char) : List String → List Letter → Act Unit
  | [], _ => return ()
  | [name], ls => do
    checkName name
    Act.assign name (String.ofList ((lastField separators ls).map (·.1))) false
  | name :: rest, ls => do
    checkName name
    let (field, ls) := takeField separators ls
    Act.assign name (String.ofList (field.map (·.1))) false
    assignFields separators rest ls

def read : Command := fun args => do
  let (given, names) ← options ⟨['r'], ['p']⟩ none args
  if names.isEmpty then Act.fail "arg count"
  let (letters, ended) ← readLines (given.any (·.1 = 'r')) mostLines []
  let separators := (← get).separators.toList
  let blank (l : Letter) : Bool :=
    !l.2 && separators.contains l.1 && (l.1 = ' ' || l.1 = '\t' || l.1 = '\n')
  assignFields separators names (letters.dropWhile blank)
  return if ended then 0 else 1

end SupervisedShell.Script.Builtin
