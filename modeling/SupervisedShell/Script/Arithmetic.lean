import SupervisedShell.Script.Run
/-!
Sums between double parentheses, over signed numbers of 64 bits. They are worked out as they are
read, so that of two faults the first one counts. What a choice leaves aside is read without being
done.
-/

set_option autoImplicit false

namespace SupervisedShell.Script

/-- An operator between two numbers. -/
inductive Binary where
  | mul
  | div
  | mod
  | add
  | sub
  | shiftLeft
  | shiftRight
  | lt
  | le
  | gt
  | ge
  | eq
  | ne
  | and
  | xor
  | or
  deriving DecidableEq, Repr

namespace Binary

def all : List (String × Binary) :=
  [("<<", shiftLeft), (">>", shiftRight), ("<=", le), (">=", ge), ("==", eq),
    ("!=", ne), ("*", mul),
    ("/", div), ("%", mod), ("+", add), ("-", sub), ("<", lt), (">", gt), ("&", and), ("^", xor),
    ("|", or)]

def level : Binary → Nat
  | mul | div | mod => 0
  | add | sub => 1
  | shiftLeft | shiftRight => 2
  | lt | le | gt | ge => 3
  | eq | ne => 4
  | and => 5
  | xor => 6
  | or => 7

def levels : Nat := 8

def assigns : Binary → Bool
  | lt | le | gt | ge | eq | ne => false
  | _ => true

end Binary

inductive Unary where
  | plus
  | minus
  | not
  | complement
  deriving DecidableEq, Repr

namespace Sum

inductive Token where
  | number (n : Int)
  | name (s : String)
  | sign (s : String)
  deriving DecidableEq, Repr

def signs : List String :=
  ["<<=", ">>=", "&&", "||", "<<", ">>", "<=", ">=", "==", "!=", "*=", "/=", "%=", "+=", "-=", "&=",
    "^=", "|=", "*", "/", "%", "+", "-", "<", ">", "&", "^", "|", "!", "~", "?", ":", "(", ")", "="]

def tokens : (letters : Nat) → List Char → List Token
  | 0, _ => []
  | _ + 1, [] => []
  | n + 1, c :: rest =>
    if c = ' ' || c = '\t' || c = '\n' then tokens n rest
    else if c.isDigit then
      let (v, rest) := numeral (c :: rest)
      .number (min v largest) :: tokens n rest
    else if isNameStart c then
      let name := (c :: rest).takeWhile isNameChar
      .name (String.ofList name) :: tokens n ((c :: rest).drop name.length)
    else
      match signs.find? fun s => s.toList.isPrefixOf (c :: rest) with
      | some s => .sign s :: tokens n ((c :: rest).drop s.length)
      | none => .sign (String.singleton c) :: tokens n rest

def truth (b : Bool) : Int := if b then 1 else 0

def assignment? (s : String) : Option (Option Binary) :=
  if s = "=" then some none
  else
    (Binary.all.find? fun b => s = b.1 ++ "=" ∧ b.2.assigns).map fun b => some b.2

def unary? (s : String) : Option Unary :=
  match s with
  | "+" => some .plus
  | "-" => some .minus
  | "!" => some .not
  | "~" => some .complement
  | _ => none

def bits (n : Int) : BitVec 64 := BitVec.ofInt 64 n

def result? (op : Binary) (a b : Int) : Option Int :=
  match op with
  | .mul => some (wrap (a * b))
  | .div => if b = 0 then none else some (a.tdiv b)
  | .mod => if b = 0 then none else some (a.tmod b)
  | .add => some (wrap (a + b))
  | .sub => some (wrap (a - b))
  | .shiftLeft => some (bits a <<< (b % 64).toNat).toInt
  | .shiftRight => some ((bits a).sshiftRight (b % 64).toNat).toInt
  | .lt => some (truth (a < b))
  | .le => some (truth (a ≤ b))
  | .gt => some (truth (b < a))
  | .ge => some (truth (b ≤ a))
  | .eq => some (truth (a = b))
  | .ne => some (truth (a ≠ b))
  | .and => some (bits a &&& bits b).toInt
  | .xor => some (bits a ^^^ bits b).toInt
  | .or => some (bits a ||| bits b).toInt

def lookUp (name : String) : Act Int := do
  let text := ((← get).valueOf? name).getD ""
  match ofText? true text with
  | some n => return n
  | none => Act.fail s!"Illegal number: {text}"

def fault {α : Type} (text message : String) : Act α :=
  Act.fail s!"arithmetic expression: {message}: \"{text}\""

abbrev Step := Int × List Token

/-- Works parts of a sum out. -/
structure Parts where
  text : String
  assignment : (idle : Bool) → List Token → Act Step
  conditional : (idle : Bool) → List Token → Act Step
  either : (idle : Bool) → List Token → Act Step
  both : (idle : Bool) → List Token → Act Step
  primary : (idle : Bool) → List Token → Act Step

namespace Parts

def breaks (op : Binary) (a b : Int) : Bool :=
  (op = .div || op = .mod) && a = -largest - 1 && b = -1

def apply (x : Parts) (idle : Bool) (op : Binary) (a b : Int) : Act Int := do
  if idle then return b
  if breaks op a b then Act.break_ Signal.arithmetic
  match result? op a b with
  | some n => return n
  | none => fault x.text "division by zero"

def primaryAt (x : Parts) (idle : Bool) : List Token → Act Step
  | .number v :: rest => return (v, rest)
  | .name s :: rest => do return (← if idle then pure 0 else lookUp s, rest)
  | .sign "(" :: rest => do
    match ← x.assignment idle rest with
    | (a, .sign ")" :: ts) => return (a, ts)
    | _ => fault x.text "expecting ')'"
  | .sign s :: rest =>
    match unary? s with
    | some op => do
      let (n, ts) ← x.primary idle rest
      match op with
      | .plus => return (n, ts)
      | .minus => return (wrap (-n), ts)
      | .not => return (truth (n = 0), ts)
      | .complement => return (-n - 1, ts)
    | none => fault x.text "expecting primary"
  | [] => fault x.text "expecting primary"

def more (x : Parts) (idle : Bool) (level : Nat) (operand : List Token → Act Step) :
    (steps : Nat) → Step → Act Step
  | 0, s => return s
  | n + 1, (a, ts) =>
    match ts with
    | .sign s :: rest =>
      match Binary.all.find? fun b => b.1 = s ∧ b.2.level = level with
      | some (_, op) => do
        let (b, ts) ← operand rest
        more x idle level operand n (← x.apply idle op a b, ts)
      | none => return (a, ts)
    | _ => return (a, ts)

def binary (x : Parts) (idle : Bool) : (levels : Nat) → List Token → Act Step
  | 0, ts => x.primary idle ts
  | k + 1, ts => do
    let first ← binary x idle k ts
    x.more idle k (binary x idle k) (ts.length + 1) first

def bothAt (x : Parts) (idle : Bool) (ts : List Token) : Act Step := do
  match ← x.binary idle Binary.levels ts with
  | (a, .sign "&&" :: ts) => do
    let (b, ts) ← x.both (idle || a = 0) ts
    return (truth (a ≠ 0 && b ≠ 0), ts)
  | s => return s

def eitherAt (x : Parts) (idle : Bool) (ts : List Token) : Act Step := do
  match ← x.both idle ts with
  | (a, .sign "||" :: ts) => do
    let (b, ts) ← x.either (idle || a ≠ 0) ts
    return (truth (a ≠ 0 || b ≠ 0), ts)
  | s => return s

def conditionalAt (x : Parts) (idle : Bool) (ts : List Token) : Act Step := do
  match ← x.either idle ts with
  | (a, .sign "?" :: ts) => do
    match ← x.assignment (idle || a = 0) ts with
    | (b, .sign ":" :: ts) => do
      let (c, ts) ← x.conditional (idle || a ≠ 0) ts
      return (if a ≠ 0 then b else c, ts)
    | _ => fault x.text "expecting ':'"
  | s => return s

def assign (x : Parts) (name : String) (op? : Option Binary) (b : Int) : Act Int := do
  let n ←
    match op? with
    | none => pure b
    | some op => do
      let a ← lookUp name
      x.apply false op a b
  Act.assign name (toString n) false
  return n

def assignmentAt (x : Parts) (idle : Bool) (ts : List Token) : Act Step := do
  match ts with
  | .name s :: .sign t :: rest =>
    match assignment? t with
    | some op? => do
      let (b, ts) ← x.assignment idle rest
      return (← if idle then pure b else x.assign s op? b, ts)
    | none => x.conditional idle ts
  | _ => x.conditional idle ts

end Parts

/-- A part of the grammar. -/
inductive Goal where
  | assignment
  | conditional
  | either
  | both
  | primary

def work (text : String) : (depth : Nat) → Goal → (idle : Bool) → List Token → Act Step
  | 0, _, _, _ => fault text "expecting primary"
  | n + 1, goal, idle, ts =>
    let x : Parts :=
      { text := text, assignment := work text n .assignment, conditional := work text n .conditional
        either := work text n .either, both := work text n .both, primary := work text n .primary }
    match goal with
    | .assignment => x.assignmentAt idle ts
    | .conditional => x.conditionalAt idle ts
    | .either => x.eitherAt idle ts
    | .both => x.bothAt idle ts
    | .primary => x.primaryAt idle ts

def value (text : String) : Act Int := do
  let ts := tokens text.length text.toList
  match ← work text (8 * (ts.length + 2)) .assignment false ts with
  | (n, []) => return n
  | _ => fault text "expecting EOF"

end Sum

end SupervisedShell.Script
