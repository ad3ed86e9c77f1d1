
set_option autoImplicit false

namespace SupervisedShell.Program.Split

inductive Quote where
  | single
  | double
  deriving DecidableEq, Repr

inductive Fault where
  | unclosed
  | backslashAtEnd
  | sequence (c : Char)
  | cutInQuotes
  | dollar (text : String)
  deriving DecidableEq, Repr

namespace Fault

def message : Fault → String
  | unclosed => "no terminating quote in -S string"
  | backslashAtEnd => "invalid backslash at end of string in -S"
  | sequence c => s!"invalid sequence '\\{c}' in -S"
  | cutInQuotes => "'\\c' must not appear in double-quoted -S string"
  | dollar text => "only $\x7bVARNAME\x7d expansion is supported, error at: " ++ text

end Fault

def isBlank (c : Char) : Bool := [' ', '\t', '\n', '\x0b', '\x0c', '\r'].contains c

def letter? (c : Char) : Option Char :=
  match c with
  | '"' | '#' | '$' | '\x27' | '\\' => some c
  | 'f' => some '\x0c'
  | 'n' => some '\n'
  | 'r' => some '\r'
  | 't' => some '\t'
  | 'v' => some '\x0b'
  | _ => none

/-- The name in braces behind a dollar sign, and what stands behind it. -/
def name? : List Char → Option (String × List Char)
  | '\x7b' :: c :: rest =>
    let isStart (c : Char) : Bool := c.isAlpha || c = '_'
    let name := (c :: rest).takeWhile fun c => c.isAlphanum || c = '_'
    match (c :: rest).drop name.length with
    | '\x7d' :: behind => if isStart c then some (String.ofList name, behind) else none
    | _ => none
  | _ => none

/-- The words so far, the last one first, of which the one in hand is reversed if there is one. -/
structure Words where
  done : List String
  current? : Option (List Char)
  asked : List (String × Option String)

namespace Words

def start : Words := ⟨[], none, []⟩

def add (cs : List Char) (x : Words) : Words :=
  { x with current? := some (cs.reverse ++ x.current?.getD []) }

def finish (x : Words) : Words :=
  match x.current? with
  | some w => { x with done := String.ofList w.reverse :: x.done, current? := none }
  | none => x

end Words

def read (value? : String → Option String) :
    (letters : Nat) → Option Quote → Words → List Char → Except Fault Words
  | 0, _, x, _ => .ok x.finish
  | _ + 1, q?, x, [] => if q?.isSome then .error .unclosed else .ok x.finish
  | n + 1, q?, x, c :: rest =>
    let plain (c : Char) (rest : List Char) : Except Fault Words :=
      read value? n q? (x.add [c]) rest
    if c = '\x27' && q? ≠ some .double then
      read value? n (if q?.isSome then none else some .single) (x.add []) rest
    else if c = '"' && q? ≠ some .single then
      read value? n (if q?.isSome then none else some .double) (x.add []) rest
    else if isBlank c && q?.isNone then read value? n q? x.finish rest
    else if c = '#' && x.current?.isNone then .ok x.finish
    else if c = '\\' then
      match rest with
      | [] => if q? = some .single then plain c rest else .error .backslashAtEnd
      | e :: behind =>
        if q? = some .single && e ≠ '\\' && e ≠ '\x27' then plain c rest
        else if e = '_' then
          if q? = some .double then plain ' ' behind else read value? n q? x.finish behind
        else if e = 'c' then if q? = some .double then .error .cutInQuotes else .ok x.finish
        else
          match letter? e with
          | some d => plain d behind
          | none => .error (.sequence e)
    else if c = '$' && q? ≠ some .single then
      match name? rest with
      | none => .error (.dollar (String.ofList (c :: rest)))
      | some (name, behind) =>
        let v? := value? name
        let x : Words := { x with asked := (name, v?) :: x.asked }
        read value? n q? (v?.elim x fun v => x.add v.toList) behind
    else plain c rest

def words (value? : String → Option String) (s : String) :
    Except Fault (List String × List (String × Option String)) :=
  (read value? (s.length + 1) none .start s.toList).map fun x => (x.done.reverse, x.asked.reverse)

end SupervisedShell.Program.Split
