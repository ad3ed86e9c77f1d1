import SupervisedShell.ExitCode
import SupervisedShell.Number.Decimal
import SupervisedShell.Time
import SupervisedShell.System.WaitStatus

set_option autoImplicit false

namespace SupervisedShell

inductive Outcome where
  | exited (code : Int)
  | signaled (signal : Int)
  | timedOut (limit : Duration)
  deriving DecidableEq, Repr

namespace Outcome

def exitCode : Outcome → ExitCode
  | exited code => code
  | signaled signal => ExitCode.signalBase + signal
  | timedOut _ => ExitCode.timedOut

def text : Outcome → String
  | exited code => s!"exited with status {code}"
  | signaled signal => s!"terminated by signal {signal}"
  | timedOut limit => s!"timed out after {limit.secondsText}s, killed"

def pieces : Outcome → List String
  | exited code => "exited with status " :: Decimal.pieces code
  | signaled signal => "terminated by signal " :: Decimal.pieces signal
  | timedOut limit => "timed out after " :: limit.secondsPieces ++ ["s, killed"]

@[simp] theorem join_pieces (o : Outcome) : String.join o.pieces = o.text := by
  cases o with
  | exited code | signaled signal =>
    rw [pieces, String.join_cons, Decimal.join_pieces]
    rfl
  | timedOut limit =>
    rw [pieces, List.cons_append, String.join_cons, String.join_append, Duration.join_secondsPieces,
      String.join_cons, String.join_nil, String.append_empty]
    exact String.append_assoc.symm

def isExit : Outcome → Bool
  | exited _ => true
  | _ => false

def ofStatus : WaitStatus → Outcome
  | .exited code => exited code
  | .signaled signal _ => signaled signal
  | .stopped _ | .continued => exited (-1)

end Outcome

end SupervisedShell
