import SupervisedShell.Supervisor.Limits
import SupervisedShell.Text.Utf8

set_option autoImplicit false

namespace SupervisedShell

structure Environment where
  searchPath? : Option Bytes
  limits : Limits
  shouldExit : Bool
  deriving DecidableEq, Repr

def Environment.ofSearchPath (path? : Option Bytes) : Environment :=
  ⟨path?, Limits.standard, false⟩

end SupervisedShell
