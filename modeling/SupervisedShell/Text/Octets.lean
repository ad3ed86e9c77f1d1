import SupervisedShell.Text.Utf8

set_option autoImplicit false

namespace SupervisedShell.Octets

def ofBytes (b : Bytes) : String := String.ofList (b.map fun x => Char.ofNat x.toNat)

def toBytes (s : String) : Bytes := s.toList.map fun c => UInt8.ofNat c.toNat

/-- The bytes that write a text. -/
def ofText (s : String) : String := ofBytes (Utf8.encode s)

theorem toNat_ofNat_byte (x : UInt8) : (Char.ofNat x.toNat).toNat = x.toNat := by
  have h : x.toNat < 256 := x.toNat_lt
  have valid : x.toNat.isValidChar := by
    unfold Nat.isValidChar
    omega
  exact congrArg Char.toNat (dif_pos valid)

/-- Nothing is lost. -/
theorem toBytes_ofBytes (b : Bytes) : toBytes (ofBytes b) = b := by
  induction b with
  | nil => rfl
  | cons x r ih =>
    simp only [toBytes, ofBytes, String.toList_ofList, List.map_cons, List.cons.injEq] at ih ⊢
    exact ⟨by rw [toNat_ofNat_byte]; simp, ih⟩

end SupervisedShell.Octets
