import SupervisedShell.Text.CharSet

set_option autoImplicit false

namespace SupervisedShell

namespace Regex

/-- What a place in a text may be asked for, without taking a character. -/
inductive Look where
  | start
  | stop
  | lineStart (crlf : Bool)
  | lineStop (crlf : Bool)
  | boundary (word : CharSet)
  | noBoundary (word : CharSet)
  | wordStart (word : CharSet)
  | wordStop (word : CharSet)
  | halfStart (word : CharSet)
  | halfStop (word : CharSet)
  deriving DecidableEq, Repr

end Regex

inductive Regex where
  | empty
  | literal (text : List Char)
  | set (s : CharSet)
  | look (l : Regex.Look)
  | concat (a b : Regex)
  | either (a b : Regex)
  | repeated (a : Regex) (least : Nat) (most? : Option Nat) (greedy : Bool)
  | group (number : Nat) (a : Regex)
  deriving DecidableEq, Repr

namespace Regex

/-- One character of a set. A single member is a letter like any other. -/
def ofSet (s : CharSet) : Regex :=
  match s.single? with
  | some c => .literal [c]
  | none => .set s

def parts : Regex → List Regex
  | .empty => []
  | .concat a b => a :: parts b
  | r => [r]

def branches : Regex → List Regex
  | .either a b => a :: branches b
  | r => [r]

def joinLetters : List Regex → List Regex
  | .literal s :: rest =>
    match joinLetters rest with
    | .literal t :: rest => .literal (s ++ t) :: rest
    | rest => .literal s :: rest
  | r :: rest => r :: joinLetters rest
  | [] => []

def chain : List Regex → Regex
  | [] => .empty
  | [r] => r
  | r :: rest => .concat r (chain rest)

def sequence (rs : List Regex) : Regex := chain (joinLetters (rs.flatMap parts))

def choice : List Regex → Regex
  | [] => .set .empty
  | [r] => r
  | r :: rest => .either r (choice rest)

def oneOf? : Regex → Option CharSet
  | .literal [c] => some (.single c)
  | .set s => some s
  | _ => none

def commonCount : List Regex → List Regex → Nat
  | a :: s, b :: t => if a = b then commonCount s t + 1 else 0
  | _, _ => 0

def isSequence : Regex → Bool
  | .concat _ _ => true
  | _ => false

/-- How many parts all of the branches begin with in common; none, if one of them is no sequence. -/
def sharedCount (rs : List Regex) : Nat :=
  match rs with
  | [] | [_] => 0
  | first :: rest =>
    if rs.all isSequence then
      rest.foldl (fun n r => min n (commonCount first.parts r.parts)) first.parts.length
    else 0

def merged (all : List Regex) : Regex :=
  match all.mapM oneOf? with
  | some sets => ofSet (sets.foldl .union .empty)
  | none => choice all

def alternatives (rs : List Regex) : Regex :=
  match rs.flatMap branches with
  | [] => .set .empty
  | [r] => r
  | all =>
    match sharedCount all with
    | 0 => merged all
    | k + 1 =>
      let front := (all.head?.map fun r => r.parts.take (k + 1)).getD []
      let behind := all.map fun r => sequence (r.parts.drop (k + 1))
      sequence (front ++ [merged (behind.flatMap branches)])

def least? : Regex → Option Nat
  | .empty | .look _ => some 0
  | .literal t => some (t.foldl (fun n c => n + c.utf8Size) 0)
  | .set s => s.ranges.head?.map fun r => (Char.ofNat r.1).utf8Size
  | .concat a b => do return (← least? a) + (← least? b)
  | .either a b => do return min (← least? a) (← least? b)
  | .repeated a least _ _ => (least? a).map (· * least)
  | .group _ a => least? a

def isAlwaysEmpty : Regex → Bool
  | .empty | .look _ => true
  | .literal _ | .set _ => false
  | .concat a b | .either a b => isAlwaysEmpty a && isAlwaysEmpty b
  | .repeated a _ _ _ | .group _ a => isAlwaysEmpty a

def repetition (a : Regex) (least : Nat) (most? : Option Nat) (greedy : Bool) : Regex :=
  let (least, most?) :=
    if a.isAlwaysEmpty then (min least 1, some (most?.elim 1 (min · 1))) else (least, most?)
  if least = 0 ∧ most? = some 0 then .empty
  else if least = 1 ∧ most? = some 1 then a
  else .repeated a least most? greedy

end Regex

end SupervisedShell
