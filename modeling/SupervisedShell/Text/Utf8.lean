
set_option autoImplicit false

namespace SupervisedShell

abbrev Bytes := List UInt8

namespace Utf8

def encode (s : String) : Bytes := s.toList.flatMap String.utf8EncodeChar

theorem encode_append (s t : String) : encode (s ++ t) = encode s ++ encode t := by
  simp [encode]

/-- What a first byte announces. The bounds are those of the second byte: they keep out overlong
forms, surrogates and values above U+10FFFF. -/
inductive Lead where
  | one
  | two
  | three (lo hi : UInt8)
  | four (lo hi : UInt8)
  | illFormed

def Lead.ofByte (b : UInt8) : Lead :=
  if b < 0x80 then .one
  else if b < 0xC2 then .illFormed
  else if b < 0xE0 then .two
  else if b = 0xE0 then .three 0xA0 0xBF
  else if b = 0xED then .three 0x80 0x9F
  else if b < 0xF0 then .three 0x80 0xBF
  else if b = 0xF0 then .four 0x90 0xBF
  else if b < 0xF4 then .four 0x80 0xBF
  else if b = 0xF4 then .four 0x80 0x8F
  else .illFormed

def isTail (b : UInt8) : Bool := 0x80 ≤ b && b ≤ 0xBF

def within (lo hi b : UInt8) : Bool := lo ≤ b && b ≤ hi

/-- The value of a lead byte, whose low `bits` count, followed by tail bytes of six bits each. -/
def value (bits : Nat) (lead : UInt8) (tail : Bytes) : Nat :=
  tail.foldl (fun v b => v * 64 + b.toNat % 64) (lead.toNat % Nat.pow 2 bits)

/-- The first piece of `b :: rest`, and the bytes after it. An ill-formed part ends before the first
byte that cannot continue it. -/
def next (b : UInt8) (rest : Bytes) : Option Char × Bytes :=
  match Lead.ofByte b with
  | .one => (some (Char.ofNat b.toNat), rest)
  | .illFormed => (none, rest)
  | .two =>
    match rest with
    | c :: r => if isTail c then (some (Char.ofNat (value 5 b [c])), r) else (none, rest)
    | [] => (none, [])
  | .three lo hi =>
    match rest with
    | c :: d :: r =>
      if within lo hi c then
        if isTail d then (some (Char.ofNat (value 4 b [c, d])), r) else (none, d :: r)
      else (none, rest)
    | [c] => if within lo hi c then (none, []) else (none, [c])
    | [] => (none, [])
  | .four lo hi =>
    match rest with
    | c :: d :: e :: r =>
      if within lo hi c then
        if isTail d then
          if isTail e then (some (Char.ofNat (value 3 b [c, d, e])), r) else (none, e :: r)
        else (none, d :: e :: r)
      else (none, rest)
    | [c, d] =>
      if within lo hi c then if isTail d then (none, []) else (none, [d]) else (none, [c, d])
    | [c] => if within lo hi c then (none, []) else (none, [c])
    | [] => (none, [])

theorem next_length (b : UInt8) (rest : Bytes) : (next b rest).2.length ≤ rest.length := by
  unfold next
  repeat' split
  all_goals simp
  all_goals omega

def pieces : Bytes → List (Option Char)
  | [] => []
  | b :: rest => (next b rest).1 :: pieces (next b rest).2
termination_by bs => bs.length
decreasing_by
  have := next_length b rest
  simp; omega

def lossy (bs : Bytes) : String := String.ofList ((pieces bs).map (·.getD '\uFFFD'))

/-- The text of well-formed bytes. -/
def decode? (bs : Bytes) : Option String := ((pieces bs).mapM id).map String.ofList

end Utf8

end SupervisedShell
