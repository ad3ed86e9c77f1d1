
set_option autoImplicit false

namespace SupervisedShell.Decimal

def value (digits : List Char) : Nat :=
  digits.foldl (fun n d => n * 10 + (d.toNat - '0'.toNat)) 0

def pieces : Int → List String
  | .ofNat n => [toString n]
  | .negSucc n => ["-", toString (n + 1)]

theorem join_pieces (n : Int) : String.join (pieces n) = toString n := by
  cases n <;> simp only [pieces, String.join_cons, String.join_nil, String.append_empty] <;> rfl

def isDigits (text : List Char) : Bool := !text.isEmpty && text.all Char.isDigit

inductive Fault where
  | empty
  | invalidDigit
  | tooLarge
  | tooSmall
  deriving DecidableEq, Repr

def Fault.message : Fault → String
  | .empty => "cannot parse integer from empty string"
  | .invalidDigit => "invalid digit found in string"
  | .tooLarge => "number too large to fit in target type"
  | .tooSmall => "number too small to fit in target type"

def readDigits (max : Nat) : Nat → List Char → Except Fault Nat
  | n, [] => .ok n
  | n, d :: ds =>
    if !d.isDigit then .error .invalidDigit
    else
      let n := n * 10 + (d.toNat - '0'.toNat)
      if n ≤ max then readDigits max n ds else .error .tooLarge

def unsigned (max : Nat) (text : String) : Except Fault Nat :=
  match text.toList with
  | [] => .error .empty
  | ['+'] => .error .invalidDigit
  | '+' :: ds => readDigits max 0 ds
  | ds => readDigits max 0 ds

inductive SignedFault where
  | notDecimal
  | outOfRange (fault : Fault)
  deriving DecidableEq, Repr

def inInt64 (n : Int) : Except SignedFault Int :=
  if n < -9223372036854775808 then .error (.outOfRange .tooSmall)
  else if 9223372036854775807 < n then .error (.outOfRange .tooLarge)
  else .ok n

def signed (text : String) : Except SignedFault Int :=
  match text.toList with
  | '-' :: ds => if isDigits ds then inInt64 (-(value ds : Int)) else .error .notDecimal
  | '+' :: ds => if isDigits ds then inInt64 (value ds) else .error .notDecimal
  | ds => if isDigits ds then inInt64 (value ds) else .error .notDecimal

end SupervisedShell.Decimal
