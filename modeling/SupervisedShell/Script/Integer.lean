
set_option autoImplicit false

namespace SupervisedShell.Script.Sum

def wrap (n : Int) : Int := Int.bmod n 18446744073709551616

def largest : Int := 9223372036854775807

/-- A number in the notation that its first characters announce, and what stands behind it. -/
def numeral (s : List Char) : Int × List Char :=
  let hexDigit (c : Char) : Option Nat :=
    if c.isDigit then some (c.toNat - '0'.toNat)
    else if 'a' ≤ c ∧ c ≤ 'f' then some (c.toNat - 'a'.toNat + 10)
    else if 'A' ≤ c ∧ c ≤ 'F' then some (c.toNat - 'A'.toNat + 10)
    else none
  let run (base : Nat) (s : List Char) : Int × List Char :=
    let digits := s.takeWhile fun c => (hexDigit c).any (· < base)
    let n := digits.foldl (fun n c => n * base + (hexDigit c).getD 0) 0
    (n, s.drop digits.length)
  match s with
  | '0' :: x :: d :: rest =>
    if (x = 'x' ∨ x = 'X') ∧ (hexDigit d).isSome then run 16 (d :: rest) else run 8 s
  | '0' :: _ => run 8 s
  | _ => run 10 s

def isSpace (c : Char) : Bool := c = ' ' || ('\t' ≤ c && c ≤ '\r')

def isNegative : List Char → Bool × List Char
  | '-' :: rest => (true, rest)
  | '+' :: rest => (false, rest)
  | s => (false, s)

def decimal (s : List Char) : Int × List Char :=
  let digits := s.takeWhile Char.isDigit
  let n : Nat := digits.foldl (fun n c => n * 10 + (c.toNat - '0'.toNat)) 0
  (n, s.drop digits.length)

def signed? (negative : Bool) (n : Int) : Option Int :=
  if largest + (if negative then 1 else 0) < n then none else some (if negative then -n else n)

/-- A whole text as a number, in decimal or in any notation. Blanks may stand around it. -/
def ofText? (anyNotation : Bool) (s : String) : Option Int :=
  let s := s.toList.dropWhile isSpace
  let (negative, digits) := isNegative s
  if !(digits.head?.any Char.isDigit) then if anyNotation && s.isEmpty then some 0 else none
  else
    let (n, rest) := if anyNotation then numeral digits else decimal digits
    if rest.all isSpace then signed? negative n else none

def largestCount : Int := 2147483647

def count? (s : String) : Option Nat :=
  (ofText? false s).bind fun n => if n < 0 || largestCount < n then none else some n.toNat

end SupervisedShell.Script.Sum
