import SupervisedShell.Script.Arithmetic

set_option autoImplicit false

namespace SupervisedShell.Script.Builtin

abbrev Command := List String → Act Nat

/-- Letters that a command knows, some of them with a value. -/
structure Letters where
  plain : List Char
  valued : List Char

def letters (known : Letters) : List Char → Act (List (Char × String) × Option Char)
  | [] => return ([], none)
  | c :: rest => do
    if known.valued.contains c then
      return if rest.isEmpty then ([], some c) else ([(c, String.ofList rest)], none)
    else if known.plain.contains c then
      let (given, waiting?) ← letters known rest
      return ((c, "") :: given, waiting?)
    else Act.fail s!"Illegal option -{c}"

def options (known : Letters) (waiting? : Option Char) :
    List String → Act (List (Char × String) × List String)
  | [] =>
    match waiting? with
    | some c => Act.fail s!"No arg for -{c} option"
    | none => return ([], [])
  | s :: rest => do
    match waiting? with
    | some c =>
      let (given, operands) ← options known none rest
      return ((c, s) :: given, operands)
    | none =>
      match s.toList with
      | ['-', '-'] => return ([], rest)
      | '-' :: c :: cs =>
        let (first, waiting?) ← letters known (c :: cs)
        let (given, operands) ← options known waiting? rest
        return (first ++ given, operands)
      | _ => return ([], s :: rest)

def operands (args : List String) :
    Act (List String) := do return (← options ⟨[], []⟩ none args).2

def illegalNumber {α : Type} (s : String) : Act α := Act.fail s!"Illegal number: {s}"

def integer (s : String) : Act Int := do
  match Sum.ofText? false s with
  | some n => return n
  | none => illegalNumber s

def number (s : String) : Act Nat := do
  match Sum.count? s with
  | some n => return n
  | none => illegalNumber s

end SupervisedShell.Script.Builtin
