import SupervisedShell.Script.Builtin.Variables

set_option autoImplicit false

namespace SupervisedShell.Script.Builtin

/-- What a step has come to. -/
structure Found where
  /-- What is told: a letter, or a mark for one that is not known or has no value. -/
  letter : Char
  value? : Option (Option String)
  index : Nat
  place? : Option Nat
  complaint? : Option String
  isEnd : Bool

/-- Whether a letter takes a value, if it is known. A colon belongs to the letter before it. -/
def takesValue? (c : Char) : List Char → Option Bool
  | [] => none
  | [q] => if q = c then some false else none
  | q :: ':' :: rest => if q = c then some true else takesValue? c rest
  | q :: rest => if q = c then some false else takesValue? c rest

def faulty (known : List Char) (mark c : Char) (complaint : String) (index : Nat)
    (place? : Option Nat) :
    Found :=
  if known.head? = some ':' then
    ⟨mark, some (some (String.singleton c)), index, place?, none, false⟩
  else ⟨'?', some none, index, place?, some complaint, false⟩

def letterAt (known : List Char) (args : List String) (index place : Nat) (c : Char)
    (rest : List Char) :
    Found :=
  match takesValue? c known with
  | none => faulty known '?' c s!"Illegal option -{c}" index (some (place + 1))
  | some false => ⟨c, some (some ""), index, some (place + 1), none, false⟩
  | some true =>
    if !rest.isEmpty then ⟨c, some (some (String.ofList rest)), index, none, none, false⟩
    else
      match args[index - 1]? with
      | some v => ⟨c, some (some v), index + 1, none, none, false⟩
      | none => faulty known ':' c s!"No arg for -{c} option" index none

def nextLetter (known : List Char) (args : List String) (index : Nat) (place? : Option Nat) :
    Found :=
  let atEnd (index : Nat) : Found := ⟨'?', none, index, none, none, true⟩
  let left : List Char :=
    match place? with
    | some place => if index ≤ 1 then [] else ((args.getD (index - 2) "").toList).drop place
    | none => []
  match left with
  | c :: rest => letterAt known args index (place?.getD 0) c rest
  | [] =>
    match (args[index - 1]?).map String.toList with
    | some ['-', '-'] => atEnd (index + 1)
    | some ('-' :: c :: rest) => letterAt known args (index + 1) 1 c rest
    | _ => atEnd index

def getopts : Command := fun args => do
  match args with
  | known :: name :: rest => do
    let r ← get
    let params := if rest.isEmpty then r.params else rest
    let begins := params.length + 1 < r.optionIndex
    let f :=
      nextLetter known.toList params (if begins then 1 else r.optionIndex)
        (if begins then none else r.letterPlace?)
    match f.complaint? with
    | some message => do
      let _ ← Act.write 2 s!"{message}\n"
    | none => pure ()
    match f.value? with
    | some (some v) => Act.assign "OPTARG" v false
    | some none => Act.unassign "OPTARG"
    | none => pure ()
    Act.assign "OPTIND" (toString f.index) false
    checkName name
    Act.assign name (String.singleton f.letter) false
    modify fun r => { r with optionIndex := f.index, letterPlace? := f.place? }
    return if f.isEnd then 1 else 0
  | _ => Act.fail "Usage: getopts optstring var [arg...]"

end SupervisedShell.Script.Builtin
