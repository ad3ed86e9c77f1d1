import SupervisedShell.System.IoError

set_option autoImplicit false

namespace SupervisedShell

inductive Resource where
  | time
  | fileSize
  | data
  | stack
  | core
  | memory
  | lockedMemory
  | processes
  | files
  | addresses
  | locks
  | priority
  deriving DecidableEq, Repr

/-- The bound in force, and the highest one that the process may ask for. -/
structure Ceiling where
  soft? : Option Nat
  hard? : Option Nat
  deriving DecidableEq, Repr

namespace Ceiling

def unlimited : Ceiling := ⟨none, none⟩

def isWithin (a? b? : Option Nat) : Bool :=
  match a?, b? with
  | _, none => true
  | none, some _ => false
  | some a, some b => a ≤ b

end Ceiling

/-- The ceilings of a process that are not without bound. -/
structure Ceilings where
  given : List (Resource × Ceiling)
  deriving DecidableEq, Repr

namespace Ceilings

def kilobyte : Nat := 1024

def standard : Ceilings :=
  ⟨[(.stack, ⟨some (8192 * kilobyte), none⟩), (.core, ⟨some 0, none⟩),
    (.lockedMemory, ⟨some (8192 * kilobyte), some (8192 * kilobyte)⟩),
    (.processes, ⟨some 128604, some 128604⟩), (.files, ⟨some 20000, some 20000⟩),
    (.priority, ⟨some 0, some 0⟩)]⟩

def get (cs : Ceilings) (r : Resource) : Ceiling :=
  ((cs.given.find? (·.1 = r)).map (·.2)).getD .unlimited

def set (cs : Ceilings) (r : Resource) (c : Ceiling) : Except IoError Ceilings :=
  if !Ceiling.isWithin c.soft? c.hard? then .error Errno.invalid
  else if !Ceiling.isWithin c.hard? (cs.get r).hard? then .error Errno.notPermitted
  else .ok ⟨(r, c) :: cs.given.filter (·.1 ≠ r)⟩

end Ceilings

end SupervisedShell
