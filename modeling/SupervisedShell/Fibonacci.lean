
set_option autoImplicit false

namespace SupervisedShell.Fibonacci

def largest : Nat := 9223372036854775807

structure Climb where
  value? : Option Nat
  additions : Nat
  deriving DecidableEq, Repr

/-- `steps` further numbers beyond the neighbours `a` and `b`; `made` additions came before. -/
def climb : (steps a b made : Nat) → Climb
  | 0, _, b, made => ⟨some b, made⟩
  | steps + 1, a, b, made =>
    if a + b ≤ largest then climb steps b (a + b) (made + 1) else ⟨none, made + 1⟩

def reach : Nat → Climb
  | 0 => ⟨some 0, 0⟩
  | n + 1 => climb n 0 1 0

def checked (n : Nat) : Option Nat := (reach n).value?

/-- Stands for a number that does not fit; no Fibonacci number is negative. -/
def overflow : Int := -1

def compute (n : Nat) : Int := (checked n).elim overflow Int.ofNat

end SupervisedShell.Fibonacci
