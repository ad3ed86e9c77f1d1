import SupervisedShell.Text.Utf8

set_option autoImplicit false

namespace SupervisedShell.Utf8

theorem mem_encodeChar_iff {b : UInt8} (ascii : b.toNat < 128) (c : Char) :
    b ∈ String.utf8EncodeChar c ↔ c.toNat = b.toNat := by
  have byte (n : Nat) (small : n < 256) : b = UInt8.ofNat n ↔ n = b.toNat := by
    rw [← UInt8.toNat_inj, UInt8.toNat_ofNat_of_lt' small, eq_comm]
  have value : c.toNat = c.val.toNat := rfl
  unfold String.utf8EncodeChar
  dsimp only
  split
  · rw [List.mem_singleton, byte _ (by omega), value]
  · -- Leads and tails of longer characters are all above 127.
    split
    · simp only [List.mem_cons, List.not_mem_nil, or_false]
      rw [byte _ (by omega), byte _ (by omega)]
      omega
    · split
      · simp only [List.mem_cons, List.not_mem_nil, or_false]
        rw [byte _ (by omega), byte _ (by omega), byte _ (by omega)]
        omega
      · simp only [List.mem_cons, List.not_mem_nil, or_false]
        rw [byte _ (by omega), byte _ (by omega), byte _ (by omega), byte _ (by omega)]
        omega

theorem mem_encode_iff {b : UInt8} {c : Char} (ascii : b.toNat < 128) (same : c.toNat = b.toNat)
    (s : String) :
    b ∈ encode s ↔ c ∈ s.toList := by
  simp only [encode, List.mem_flatMap, mem_encodeChar_iff ascii]
  constructor
  · rintro ⟨d, known, value⟩
    have equal : d = c := Char.ext (UInt32.toNat_inj.mp (value.trans same.symm))
    rwa [← equal]
  · intro known
    exact ⟨c, known, same⟩

theorem encode_eq_nil_iff (s : String) : encode s = [] ↔ s = "" := by
  rw [encode, List.flatMap_eq_nil_iff, ← String.toList_eq_nil_iff]
  constructor
  · intro none
    exact List.eq_nil_iff_forall_not_mem.mpr fun c known =>
      String.utf8EncodeChar_ne_nil (none c known)
  · intro empty
    simp [empty]

end SupervisedShell.Utf8
