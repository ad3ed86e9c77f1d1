
set_option autoImplicit false

namespace SupervisedShell.Caesar

def alphabet : Nat := 26

/-- The letter `shift` places after `c` in the alphabet that starts at `first`. -/
def rotate (first : Char) (shift : Int) (c : Char) : Char :=
  let place : Int := (c.toNat - first.toNat : Nat)
  Char.ofNat (first.toNat + ((place + shift % alphabet) % alphabet).toNat)

def shiftChar (shift : Int) (c : Char) : Char :=
  if c.isLower then rotate 'a' shift c
  else if c.isUpper then rotate 'A' shift c
  else c

def encrypt (shift : Int) (words : List String) : String :=
  String.ofList (List.intercalate [' '] (words.map (fun w => w.toList.map (shiftChar shift))))

def joinedSize (words : List String) : Nat :=
  words.foldr (fun w n => w.utf8ByteSize + n) (words.length - 1)

inductive Error where
  | allocation (bytes : Nat)
  deriving DecidableEq, Repr

def Error.message : Error → String
  | .allocation bytes => s!"failed to reserve {bytes} bytes for the encrypted text"

def Error.chain (e : Error) : String :=
  s!"{e.message}: memory allocation failed because the memory allocator returned an error"

/-- The bytes are asked for before any letter is shifted. -/
def reserved (grants : Nat → Bool) (shift : Int) (words : List String) : Except Error String :=
  if grants (joinedSize words) then .ok (encrypt shift words)
  else .error (.allocation (joinedSize words))

end SupervisedShell.Caesar
