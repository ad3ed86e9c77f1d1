import SupervisedShell.Number.Decimal
import SupervisedShell.Outcome
import SupervisedShell.System.IoError
import SupervisedShell.Text.Quoted
import SupervisedShell.Text.Utf8
/-!
What the shell tells its log. A record is the fact itself; the level, the part of the shell that
speaks and the wording follow from it.
-/

set_option autoImplicit false

namespace SupervisedShell.Log

inductive Level where
  | error
  | warn
  | info
  | debug
  | trace
  deriving DecidableEq, Repr

namespace Level

def rank : Level → Nat
  | error => 1
  | warn => 2
  | info => 3
  | debug => 4
  | trace => 5

def name : Level → String
  | error => "ERROR"
  | warn => "WARN"
  | info => "INFO"
  | debug => "DEBUG"
  | trace => "TRACE"

end Level

/-- A part of the shell. -/
inductive Source where
  | session
  | interpreter
  | builtin
  | external
  | supervisor
  deriving DecidableEq, Repr

def Source.target : Source → String
  | .session => "sword_shell"
  | .interpreter => "sword_shell::interpreter"
  | .builtin => "sword_shell::builtin"
  | .external => "sword_shell::external"
  | .supervisor => "sword_shell::supervisor"

inductive Record where
  | sessionFailed (chain : String)
  | dispatching (name : String) (args : Nat)
  | exitCode (code : ExitCode)
  | endOfInput
  | readFailed (chain : String)
  | commandFailed (chain : String)
  | notDecimal (text : String)
  | outOfRange (text : String) (fault : Decimal.Fault)
  | shift (n : Int)
  | ignored (args : Nat)
  | builtinFailed (name chain : String)
  | reported (name : String) (pid : Nat) (outcome : Outcome) (elapsed : Duration)
  | spawned (name : String) (path : Bytes) (pid : Nat)
  | queryFailed (name : String) (pid : Nat) (cause : IoError)
  | killFailed (pid : Nat) (cause : IoError)
  | reaped (pid : Nat) (status : WaitStatus)
  | reapFailed (pid : Nat) (cause : IoError)
  | stillRunning (pid : Nat)
  | overdue (name : String) (pid : Nat) (limit : Duration)
  | finished (name : String) (pid : Nat) (outcome : Outcome)
  deriving DecidableEq, Repr

namespace Record

def level : Record → Level
  | sessionFailed _ | readFailed _ | commandFailed _ => .error
  | queryFailed .. | reapFailed .. => .warn
  | spawned .. | overdue .. => .info
  | stillRunning _ => .trace
  | _ => .debug

def source : Record → Source
  | sessionFailed _ => .session
  | dispatching .. | exitCode _ | endOfInput | readFailed _ | commandFailed _ => .interpreter
  | notDecimal _ | outOfRange .. | shift _ | ignored _ | builtinFailed .. => .builtin
  | reported .. => .external
  | spawned .. | queryFailed .. | killFailed .. | reaped .. | reapFailed .. => .supervisor
  | stillRunning _ | overdue .. | finished .. => .supervisor

def text : Record → String
  | sessionFailed chain | commandFailed chain => chain
  | dispatching name args => s!"dispatching {Text.quoted name} with {args} argument(s)"
  | exitCode code => s!"exit code {code}"
  | endOfInput => "end of input"
  | readFailed chain => s!"failed to read input: {chain}"
  | notDecimal text => s!"{Text.quoted text} is not a decimal integer"
  | outOfRange text fault => s!"{Text.quoted text} is out of range: {fault.message}"
  | shift n => s!"caesar with shift {n}"
  | ignored args => s!"exit ignores its {args} argument(s)"
  | builtinFailed name chain => s!"{name} failed: {chain}"
  | reported name pid outcome elapsed =>
    s!"'{name}' (pid {pid}) {outcome.text} after {elapsed.text}"
  | spawned name path pid => s!"spawned '{name}' from {Utf8.lossy path} (pid {pid})"
  | queryFailed name pid cause => s!"could not query '{name}' (pid {pid}): {cause.message}"
  | killFailed pid cause => s!"kill of pid {pid} failed: {cause.message}"
  | reaped pid status => s!"reaped pid {pid} ({status.text})"
  | reapFailed pid cause => s!"failed to reap pid {pid}: {cause.message}"
  | stillRunning pid => s!"pid {pid} still running"
  | overdue name pid limit => s!"'{name}' (pid {pid}) exceeded {limit.text}, killing it"
  | finished name pid outcome => s!"'{name}' (pid {pid}) {outcome.text}"

end Record

end SupervisedShell.Log
