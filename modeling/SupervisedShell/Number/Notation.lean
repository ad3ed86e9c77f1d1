import SupervisedShell.Number.Binary
/-!
Numbers `num / den` laid out with a count of places: behind a point that stays where it is, or
behind the first digit, with an exponent for the size. The last place is rounded, at a tie to an
even digit. One notation is of base sixteen.
-/

set_option autoImplicit false

namespace SupervisedShell.Notation

def pointed (bare : Bool) (places : Nat) (digits : String) : String :=
  let ds := digits.toList
  let ds := List.replicate (places + 1 - ds.length) '0' ++ ds
  let whole := ds.length - places
  String.ofList (ds.take whole ++ if places = 0 && !bare then [] else '.' :: ds.drop whole)

def fixed (bare : Bool) (places num den : Nat) : String :=
  pointed bare places (toString (Binary.nearestEven (num * Nat.pow 10 places) den))

def magnitude (num den : Nat) : Int :=
  if num = 0 then 0
  else
    let guess : Int := (toString num).length - (toString den).length
    if den * Nat.pow 10 guess.toNat ≤ num * Nat.pow 10 (-guess).toNat then guess else guess - 1

/-- The first digits, so many behind the first one, and the power of ten of the first one. -/
def leading (places num den : Nat) : Nat × Int :=
  let e := magnitude num den
  let shift : Int := places - e
  let n := Binary.nearestEven (num * Nat.pow 10 shift.toNat) (den * Nat.pow 10 (-shift).toNat)
  if n = Nat.pow 10 (places + 1) then (Nat.pow 10 places, e + 1) else (n, e)

def exponent (e : Int) : String :=
  let ds := toString e.natAbs
  (if e < 0 then "e-" else "e+") ++ (if ds.length < 2 then "0" ++ ds else ds)

def scientific (bare : Bool) (places num den : Nat) : String :=
  let (n, e) := leading places num den
  pointed bare places (toString n) ++ exponent e

def trimmed (s : String) : String :=
  if s.toList.contains '.' then
    let ds := s.toList.reverse.dropWhile (· = '0')
    String.ofList (if ds.head? = some '.' then ds.tail else ds).reverse
  else s

/-- So many digits in all, with an exponent only for what is very small or has more digits than
that. Zeros at the end of the fraction have to be asked for. -/
def general (bare : Bool) (count num den : Nat) : String :=
  let count := max 1 count
  let finish (s : String) : String := if bare then s else trimmed s
  let (n, e) := leading (count - 1) num den
  if -4 ≤ e && e < (count : Int) then finish (fixed bare ((count : Int) - 1 - e).toNat num den)
  else finish (pointed bare (count - 1) (toString n)) ++ exponent e

/-- A number of double width by the digits of its significand in base sixteen, with as few places as
tell all of it unless others are asked for, and a power of two. -/
def binary (bare : Bool) (places? : Option Nat) (num den : Nat) : String :=
  let b := Binary.ofQuotient num den
  let (n, e) : Nat × Int :=
    if num = 0 then (0, 0)
    else if b.exp < -1074 then (num * Nat.pow 2 1074 / den, -1022)
    else (b.mant, b.exp + 52)
  let digits (places : Nat) : String :=
    String.ofList (Nat.toDigits 16 (Binary.nearestEven (n * Nat.pow 16 places) Binary.leading))
  let significand :=
    match places? with
    | some places => pointed bare places (digits places)
    | none =>
      let s := trimmed (pointed false 13 (digits 13))
      if bare && !s.toList.contains '.' then s ++ "." else s
  significand ++ (if e < 0 then "p-" else "p+") ++ toString e.natAbs

end SupervisedShell.Notation
