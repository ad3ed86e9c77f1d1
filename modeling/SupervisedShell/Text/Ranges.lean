
set_option autoImplicit false

namespace SupervisedShell

abbrev Ranges := List (Nat × Nat)

/-- Both ends of a range belong to it. -/
def Ranges.contains (r : Ranges) (c : Char) : Bool :=
  r.any fun (lo, hi) => lo ≤ c.toNat && c.toNat ≤ hi

end SupervisedShell
