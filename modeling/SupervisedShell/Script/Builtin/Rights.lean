import SupervisedShell.Script.Builtin.Operand

set_option autoImplicit false

namespace SupervisedShell.Script.Builtin

namespace Rights

def all : Nat := 0o777

def symbolic (rights : Nat) : String :=
  let one (who : String) (n : Nat) : String :=
    who ++ "=" ++ (if n &&& 4 ≠ 0 then "r" else "") ++ (if n &&& 2 ≠ 0 then "w" else "") ++
      (if n &&& 1 ≠ 0 then "x" else "")
  one "u" (rights / 64 % 8) ++ "," ++ one "g" (rights / 8 % 8) ++ "," ++ one "o" (rights % 8)

def places (c : Char) : Nat :=
  match c with
  | 'a' => 0o111
  | 'u' => 0o100
  | 'g' => 0o010
  | _ => 0o001

def digit (there : Nat) (c : Char) : Nat :=
  match c with
  | 'r' => 4
  | 'w' => 2
  | 'x' => 1
  | 'X' => if there &&& 0o111 ≠ 0 then 1 else 0
  | 'u' => there / 64
  | 'g' => there / 8
  | 'o' => there
  | _ => 0

def without (a b : Nat) : Nat := a - (a &&& b)

/-- Changes rights as clauses say. A clause without a place is for all; where no comma stands
between two, the places stay. -/
def change? (there : Nat) :
    (clauses : Nat) → (held : Nat) → (rights : Nat) → List Char → Option Nat
  | 0, _, rights, _ => some rights
  | _ + 1, _, rights, [] => some rights
  | n + 1, held, rights, s =>
    let who := s.takeWhile ['a', 'u', 'g', 'o'].contains
    let held := who.foldl (fun h c => h ||| places c) held
    let held := if held = 0 then places 'a' else held
    match s.drop who.length with
    | [] => some rights
    | op :: s =>
      let what := s.takeWhile ['r', 'w', 'x', 'u', 'g', 'o', 'X', 's'].contains
      let given := (what.foldl (fun d c => d ||| digit there c) 0 % 8) * held
      let rights? : Option Nat :=
        match op with
        | '-' => some (without rights given)
        | '=' => some (given ||| without rights (held * 7))
        | '+' => some (rights ||| given)
        | _ => none
      match rights?, s.drop what.length with
      | none, _ => none
      | some rights, [] => some rights
      | some rights, ',' :: s => change? there n 0 rights s
      | some rights, c :: s =>
        if ['=', '+', '-'].contains c then change? there n held rights (c :: s) else none

end Rights

def octalDigit (c : Char) : Bool := '0' ≤ c && c ≤ '7'

def newMask (mask : Nat) (s : String) : Act Nat := do
  if s.toList.head?.any Char.isDigit then
    if s.toList.all octalDigit then
      return s.toList.foldl (fun n c => n * 8 + (c.toNat - '0'.toNat)) 0 % 512
    else illegalNumber s
  else
    let there := Rights.all - mask
    match Rights.change? there (s.length + 1) 0 there s.toList with
    | some rights => return Rights.all - rights
    | none => Act.fail s!"Illegal mode: {s}"

def umask : Command := fun args => do
  let (given, operands) ← options ⟨['S'], []⟩ none args
  let mask := (← get).task.umask
  match operands with
  | [] => do
    let digits := Nat.toDigits 8 mask
    let octal := String.ofList (List.replicate (4 - digits.length) '0' ++ digits)
    Act.say ((if given.isEmpty then octal else Rights.symbolic (Rights.all - mask)) ++ "\n")
    return 0
  | s :: _ => do
    let mask ← newMask mask s
    modify fun r => { r with task := { r.task with umask := mask } }
    return 0

end SupervisedShell.Script.Builtin
