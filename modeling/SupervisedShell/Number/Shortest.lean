import SupervisedShell.Number.Binary
import SupervisedShell.Number.Pointed
/-!
The shortest decimal that reads back as a given binary number: on the coarsest decimal grid that has
a point closer to the number than to any of its neighbours, the nearest such point. Of two equally
near the upper one is taken.
-/

set_option autoImplicit false

namespace SupervisedShell.Binary

/-- A number in quarters of its last place, with the ends of the interval that rounds to it. All
share the denominator `den`. -/
structure Interval where
  low : Nat
  value : Nat
  high : Nat
  den : Nat
  closed : Bool
  deriving DecidableEq, Repr

def interval (x : Binary) : Interval :=
  let quarter := Nat.pow 2 (x.exp - 2).toNat
  ⟨(4 * x.mant - if x.mant = leading then 1 else 2) * quarter, 4 * x.mant * quarter,
    (4 * x.mant + 2) * quarter, Nat.pow 2 (2 - x.exp).toNat, x.mant % 2 = 0⟩

def Interval.holds (i : Interval) (n d : Nat) : Bool :=
  if i.closed then i.low * d ≤ n * i.den && n * i.den ≤ i.high * d
  else i.low * d < n * i.den && n * i.den < i.high * d

structure Grid where
  num : Nat
  den : Nat
  deriving DecidableEq, Repr

def Grid.ofPower (power : Int) : Grid := ⟨Nat.pow 10 power.toNat, Nat.pow 10 (-power).toNat⟩

def Interval.point? (i : Interval) (g : Grid) : Option Nat :=
  let below := i.value * g.den / (i.den * g.num)
  let fits (n : Nat) : Bool := i.holds (n * g.num) g.den
  match fits below, fits (below + 1) with
  | true, true =>
    if 2 * (i.value * g.den) < (2 * below + 1) * (i.den * g.num) then some below
    else some (below + 1)
  | true, false => some below
  | false, true => some (below + 1)
  | false, false => none

def powerBelow (num den : Nat) : (tries : Nat) → (power : Int) → Int
  | 0, power => power
  | tries + 1, power =>
    let g := Grid.ofPower power
    if den * g.num ≤ num * g.den then power else powerBelow num den tries (power - 1)

/-- The power of ten of the first digit of `num / den`. A digit is worth more than three bits, so it
lies between the two bounds. -/
def leadingPower (num den : Nat) : Int :=
  let top := num.log2 / 3 + 1
  powerBelow num den (top + den.log2 + 2) top

def mostDigits : Nat := 17

def Interval.shortest (i : Interval) : (grids : Nat) → (power : Int) → Nat × Int
  | 0, power => (0, power)
  | grids + 1, power =>
    match i.point? (.ofPower power) with
    | some n => (n, power)
    | none => i.shortest grids (power - 1)

def decimal (x : Binary) : Nat × Nat :=
  if x.mant = 0 then (0, 0)
  else
    let i := x.interval
    let (n, power) := i.shortest mostDigits (leadingPower i.value i.den)
    (n * Nat.pow 10 power.toNat, (-power).toNat)

def text (x : Binary) : String := Decimal.pointed x.decimal.1 x.decimal.2

def pieces (x : Binary) : List String := Decimal.pointedPieces x.decimal.1 x.decimal.2

end SupervisedShell.Binary
