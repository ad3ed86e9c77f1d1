import SupervisedShell.Log

set_option autoImplicit false

namespace SupervisedShell

structure Outlet (σ : Type) where
  write : Bytes → σ → Except IoError Nat × σ
  flush : σ → Except IoError Unit × σ

structure Inlet (σ : Type) where
  read : Nat → σ → Bytes × σ

/-- What a search wants to know of a file, links followed. -/
structure FileFacts where
  isRegular : Bool
  mode : Nat
  deriving DecidableEq, Repr

def FileFacts.isExecutable (f : FileFacts) : Bool := f.isRegular && f.mode &&& 0o111 ≠ 0

/-- A program to start: the file, the name that it is told, and its further arguments. -/
structure Launch where
  program : Bytes
  name : String
  args : List String
  deriving DecidableEq, Repr

structure System (σ : Type) where
  facts : Bytes → σ → Option FileFacts × σ
  spawn : Launch → σ → Except IoError Nat × σ
  poll : Nat → σ → Except IoError (Option WaitStatus) × σ
  kill : Nat → σ → Except IoError Unit × σ
  reap : Nat → σ → Except IoError WaitStatus × σ
  now : σ → Instant × σ
  sleep : Duration → σ → σ
  log : Log.Record → σ → σ
  readings : Instant → σ → Nat
  readings_log : ∀ (moment : Instant) (r : Log.Record) (s : σ),
    readings moment (log r s) ≤ readings moment s
  readings_lt : ∀ (pid : Nat) (moment : Instant) (d : Duration) (s s' : σ),
    (now (poll pid s).2).1.nanos < moment.nanos →
      readings moment s' ≤ readings moment (now (poll pid s).2).2 →
        readings moment (sleep d s') < readings moment s

/-- A system with a place to print to, and with memory. -/
structure Host (σ : Type) extends Outlet σ, System σ where
  grants : Nat → Bool := fun _ => true

end SupervisedShell
