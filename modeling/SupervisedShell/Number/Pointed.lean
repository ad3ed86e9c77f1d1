
set_option autoImplicit false

namespace SupervisedShell.Decimal

def padded (places n : Nat) : List Char :=
  let ds := Nat.toDigits 10 n
  List.replicate (places - ds.length) '0' ++ ds

def withoutIdleZeros (digits : List Char) : List Char :=
  (digits.reverse.dropWhile (· = '0')).reverse

def idleZeros (digits : List Char) : List Char :=
  (digits.reverse.takeWhile (· = '0')).reverse

theorem withoutIdleZeros_append (digits : List Char) :
    withoutIdleZeros digits ++ idleZeros digits = digits := by
  rw [withoutIdleZeros, idleZeros, ← List.reverse_append, List.takeWhile_append_dropWhile,
    List.reverse_reverse]

def pointed (n places : Nat) : String :=
  let unit := Nat.pow 10 places
  let whole := Nat.toDigits 10 (n / unit)
  match withoutIdleZeros (padded places (n % unit)) with
  | [] => String.ofList whole
  | fraction => String.ofList (whole ++ ['.'] ++ fraction)

/-- The texts that the fraction is printed in, one after the other. Zeros at the end of a whole
number stand by themselves, and so do those behind the point of a number below one. -/
def pointedPieces (n places : Nat) : List String :=
  let unit := Nat.pow 10 places
  let whole := Nat.toDigits 10 (n / unit)
  match withoutIdleZeros (padded places (n % unit)) with
  | [] => [String.ofList (withoutIdleZeros whole), String.ofList (idleZeros whole)]
  | fraction =>
    if n / unit = 0 then
      ["0.", String.ofList (fraction.takeWhile (· = '0')),
        String.ofList (fraction.dropWhile (· = '0'))]
    else [String.ofList whole, ".", String.ofList fraction]

theorem join_pointedPieces (n places : Nat) :
    String.join (pointedPieces n places) = pointed n places := by
  apply String.toList_inj.mp
  simp only [pointedPieces, pointed]
  split
  · simp [withoutIdleZeros_append]
  · split
    · next below =>
      have zero : Nat.toDigits 10 (n / Nat.pow 10 places) = ['0'] := by rw [below]; rfl
      simp only [zero]
      simp
    · simp

end SupervisedShell.Decimal
