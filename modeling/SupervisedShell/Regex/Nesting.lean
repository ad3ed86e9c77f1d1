import SupervisedShell.Regex.Syntax

set_option autoImplicit false

namespace SupervisedShell.Regex

def mostNested : Nat := 250

/-- The first part of a set that lies too deep, if so many parts lie around it. -/
def SetTerm.tooDeep? (depth : Nat) : SetTerm → Option Span
  | .nothing _ | .item _ => none
  | .also a b => (a.tooDeep? depth).or (b.tooDeep? depth)
  | .brackets s _ body | .union s body =>
    if mostNested ≤ depth then some s else body.tooDeep? (depth + 1)
  | .operation s _ a b =>
    if mostNested ≤ depth then some s
    else (a.tooDeep? (depth + 1)).or (b.tooDeep? (depth + 1))

/-- The first part that lies too deep, if so many parts lie around it. -/
def Term.tooDeep? (depth : Nat) : Term → Option Span
  | .empty _ | .setting _ _ | .letter _ | .dot _ | .place _ _ | .perl _ _ _ | .property _ _ _ =>
    none
  | .also a b | .or a b => (a.tooDeep? depth).or (b.tooDeep? depth)
  | .set s _ body => if mostNested ≤ depth then some s else body.tooDeep? (depth + 1)
  | .repeated s _ _ _ body | .group s _ _ body | .sequence s body | .alternatives s body =>
    if mostNested ≤ depth then some s else body.tooDeep? (depth + 1)

end SupervisedShell.Regex
