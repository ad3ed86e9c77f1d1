import SupervisedShell.Number.Decimal
import SupervisedShell.Time
/-!
Lengths of time as programs are told them: a decimal or hexadecimal number, perhaps with a fraction
and an exponent, or an infinity, and behind it the letter of a unit.
-/

set_option autoImplicit false

namespace SupervisedShell

/-- A number `digits * base ^ -places * factor ^ exponent`, or an infinity. -/
inductive Numeral where
  | finite (digits base places factor : Nat) (exponent : Int)
  | infinite
  deriving DecidableEq, Repr

namespace Numeral

def isSpace (c : Char) : Bool := [' ', '\t', '\n', '\x0b', '\x0c', '\r'].contains c

def digit? (c : Char) : Option Nat :=
  if c.isDigit then some (c.toNat - '0'.toNat)
  else if 'a' ≤ c ∧ c ≤ 'f' then some (c.toNat - 'a'.toNat + 10)
  else if 'A' ≤ c ∧ c ≤ 'F' then some (c.toNat - 'A'.toNat + 10)
  else none

def digitsOf (base : Nat) (s : List Char) : List Char :=
  s.takeWhile fun c => (digit? c).any (· < base)

def value (base : Nat) (s : List Char) : Nat :=
  s.foldl (fun n c => n * base + (digit? c).getD 0) 0

def exponent (lower upper : Char) (s : List Char) : Int × List Char :=
  match s with
  | c :: rest =>
    if c ≠ lower ∧ c ≠ upper then (0, s)
    else
      let (negative, digits) :=
        match rest with
        | '-' :: r => (true, r)
        | '+' :: r => (false, r)
        | r => (false, r)
      let ds := digitsOf 10 digits
      if ds.isEmpty then (0, s)
      else
        let n : Int := value 10 ds
        (if negative then -n else n, digits.drop ds.length)
  | [] => (0, [])

def pointed? (base : Nat) (s : List Char) : Option (Nat × Nat × List Char) :=
  let whole := digitsOf base s
  let rest := s.drop whole.length
  match rest with
  | '.' :: behind =>
    let fraction := digitsOf base behind
    if whole.isEmpty && fraction.isEmpty then none
    else some (value base (whole ++ fraction), fraction.length, behind.drop fraction.length)
  | _ => if whole.isEmpty then none else some (value base whole, 0, rest)

def decimal? (s : List Char) : Option (Numeral × List Char) :=
  (pointed? 10 s).map fun (n, places, rest) =>
    let (e, rest) := exponent 'e' 'E' rest
    (.finite n 10 places 10 e, rest)

def hexadecimal? : List Char → Option (Numeral × List Char)
  | '0' :: x :: s =>
    if x ≠ 'x' ∧ x ≠ 'X' then none
    else
      (pointed? 16 s).map fun (n, places, rest) =>
        let (e, rest) := exponent 'p' 'P' rest
        (.finite n 16 places 2 e, rest)
  | _ => none

def infinity? (s : List Char) : Option (Numeral × List Char) :=
  let starts (word : String) : Bool := (s.take word.length).map Char.toLower = word.toList
  if starts "infinity" then some (.infinite, s.drop 8)
  else if starts "inf" then some (.infinite, s.drop 3)
  else none

def read? (s : List Char) : Option (Bool × Numeral × List Char) :=
  let (negative, s) :=
    match s.dropWhile isSpace with
    | '-' :: r => (true, r)
    | '+' :: r => (false, r)
    | r => (false, r)
  ((hexadecimal? s).or ((decimal? s).or (infinity? s))).map fun (n, rest) => (negative, n, rest)

def hugeExponent : Nat := 5000

def isZero : Numeral → Bool
  | finite 0 .. => true
  | _ => false

def times? (n : Numeral) (nanos : Nat) : Option Nat :=
  match n with
  | infinite => none
  | finite digits base places factor e =>
    let above := digits * nanos
    if above = 0 then some 0
    else if (hugeExponent : Int) < e then none
    else if e < -(hugeExponent : Int) then some 1
    else
      let above := above * Nat.pow factor e.toNat
      let below := Nat.pow base places * Nat.pow factor (-e).toNat
      some ((above + below - 1) / below)

end Numeral

/-- A length of time that may be without end. -/
inductive Interval where
  | lasting (d : Duration)
  | endless
  deriving DecidableEq, Repr

namespace Interval

def unit? : List Char → Option Nat
  | [] | ['s'] => some 1
  | ['m'] => some 60
  | ['h'] => some 3600
  | ['d'] => some 86400
  | _ => none

def ofText? (s : String) : Option Interval :=
  match Numeral.read? s.toList with
  | none => none
  | some (negative, n, rest) =>
    if negative && !n.isZero then none
    else
      (unit? rest).map fun seconds =>
        match n.times? (seconds * nanosPerSecond) with
        | some nanos => .lasting ⟨nanos⟩
        | none => .endless

def add : Interval → Interval → Interval
  | lasting d, lasting e => lasting ⟨d.nanos + e.nanos⟩
  | _, _ => endless

end Interval

end SupervisedShell
