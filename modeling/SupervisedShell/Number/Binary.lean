
set_option autoImplicit false

namespace SupervisedShell

structure Binary where
  mant : Nat
  exp : Int
  deriving DecidableEq, Repr

namespace Binary

def precision : Nat := 53

def leading : Nat := Nat.pow 2 (precision - 1)

def zero : Binary := ⟨0, 0⟩

def nearestEven (num den : Nat) : Nat :=
  let q := num / den
  let r := num % den
  if 2 * r < den then q
  else if den < 2 * r then q + 1
  else q + q % 2

def scaled (num den : Nat) (exp : Int) : Nat × Nat :=
  (num * Nat.pow 2 (-exp).toNat, den * Nat.pow 2 exp.toNat)

def normalized (mant : Nat) (exp : Int) : Binary :=
  if mant = 2 * leading then ⟨leading, exp + 1⟩ else ⟨mant, exp⟩

def ofQuotient (num den : Nat) : Binary :=
  if num = 0 then zero
  else
    let guess : Int := num.log2 - den.log2 - (precision - 1 : Nat)
    let (n, d) := scaled num den guess
    let exp := if n / d < leading then guess - 1 else guess
    let (n, d) := scaled num den exp
    normalized (nearestEven n d) exp

def add (x y : Binary) : Binary :=
  let low := min x.exp y.exp
  let sum := x.mant * Nat.pow 2 (x.exp - low).toNat + y.mant * Nat.pow 2 (y.exp - low).toNat
  let (n, d) := scaled sum 1 (-low)
  ofQuotient n d

end Binary

end SupervisedShell
