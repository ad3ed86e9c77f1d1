import SupervisedShell.Script.Session
import SupervisedShell.Tool.Cat
import SupervisedShell.Tool.Echo
import SupervisedShell.Tool.Env
import SupervisedShell.Tool.Sleep

set_option autoImplicit false

namespace SupervisedShell.Program

def run : (changes : Nat) → Tool → Program
  | 0, _ => fun _ => Routine.forever
  | n + 1, tool =>
    match tool with
    | .true => idle "true" 0
    | .false => idle "false" 1
    | .sleep => sleep
    | .cat => cat
    | .echo => echo
    | .env => env (run n)
    | .sh => sh (run n)

def mostChanges : Nat := 1000000000000

end SupervisedShell.Program
