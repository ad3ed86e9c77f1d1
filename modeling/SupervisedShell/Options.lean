import SupervisedShell.Interpreter
/-!
The options of the shell. Arguments are taken from left to right; an option with a value takes the
next argument, whatever that is. The first fault ends the reading, and a request for help is
answered if there was none.
-/

set_option autoImplicit false

namespace SupervisedShell

structure Options where
  timeoutMs : Nat
  pollIntervalMs : Nat
  prompt : String
  verbose : Bool
  deriving DecidableEq, Repr

namespace Options

inductive ValueFault where
  | duplicate
  | number (fault : Decimal.Fault)
  deriving DecidableEq, Repr

def ValueFault.message : ValueFault → String
  | .duplicate => "duplicate values provided"
  | .number fault => fault.message

inductive Fault where
  | unrecognized (arg : String)
  | noValue (option : String)
  | badValue (option value : String) (fault : ValueFault)
  | trailing
  deriving DecidableEq, Repr

def Fault.message : Fault → String
  | .unrecognized arg => s!"Unrecognized argument: {arg}\n"
  | .noValue option => s!"No value provided for option '{option}'.\n"
  | .badValue option value fault =>
    s!"Error parsing option '{option}' with value '{value}': {fault.message}\n"
  | .trailing => "Trailing arguments are not allowed after `help`."

/-- Why no options come of the arguments. -/
inductive Exit where
  | help
  | fault (f : Fault)
  deriving DecidableEq, Repr

/-- What the arguments so far have set. -/
structure Slots where
  timeoutMs : Option Nat
  pollIntervalMs : Option Nat
  prompt : Option String
  verbose : Bool
  help : Bool
  deriving DecidableEq, Repr

namespace Slots

def empty : Slots := ⟨none, none, none, false, false⟩

def options (s : Slots) : Options :=
  ⟨s.timeoutMs.getD Limits.standardTimeout.millis,
    s.pollIntervalMs.getD Limits.standardPollInterval.millis,
    s.prompt.getD Interpreter.standardPrompt, s.verbose⟩

/-- The options that take a value. -/
inductive Field where
  | timeout
  | pollInterval
  | prompt
  deriving DecidableEq, Repr

def Field.ofArg? (arg : String) : Option Field :=
  if arg = "--timeout-ms" then some .timeout
  else if arg = "--poll-interval-ms" then some .pollInterval
  else if arg = "--prompt" then some .prompt
  else none

def largestNumber : Nat := 18446744073709551615

def number (old : Option Nat) (value : String) : Except ValueFault Nat :=
  match old, Decimal.unsigned largestNumber value with
  | some _, _ => .error .duplicate
  | none, .error fault => .error (.number fault)
  | none, .ok n => .ok n

def fill (s : Slots) (f : Field) (value : String) : Except ValueFault Slots :=
  match f with
  | .timeout =>
    match number s.timeoutMs value with
    | .ok n => .ok { s with timeoutMs := some n }
    | .error fault => .error fault
  | .pollInterval =>
    match number s.pollIntervalMs value with
    | .ok n => .ok { s with pollIntervalMs := some n }
    | .error fault => .error fault
  | .prompt =>
    match s.prompt with
    | some _ => .error .duplicate
    | none => .ok { s with prompt := some value }

end Slots

def isOption (arg : String) : Bool := arg.toList.head? = some '-'

def isHelp (arg : String) : Bool := arg = "--help" || arg = "help"

def isVerbose (arg : String) : Bool := arg = "--verbose" || arg = "-v"

/-- Reads arguments into slots. There are no arguments beside options, so the one that ends them
leaves room for nothing but refusals. -/
def read (s : Slots) : List String → Except Fault Slots
  | [] => .ok s
  | arg :: rest =>
    if isHelp arg then read { s with help := true } rest
    else if arg = "--" then
      match rest with
      | [] => .ok s
      | extra :: _ => .error (.unrecognized extra)
    else if !isOption arg then .error (.unrecognized arg)
    else if s.help then .error .trailing
    else if isVerbose arg then read { s with verbose := true } rest
    else
      match Slots.Field.ofArg? arg, rest with
      | none, _ => .error (.unrecognized arg)
      | some _, [] => .error (.noValue arg)
      | some f, value :: rest =>
        match s.fill f value with
        | .ok s => read s rest
        | .error fault => .error (.badValue arg value fault)

def ofArgs (args : List String) : Except Exit Options :=
  match read .empty args with
  | .ok s => if s.help then .error .help else .ok s.options
  | .error f => .error (.fault f)

def helpText (command : String) : String :=
  s!"Usage: {command} [--timeout-ms <timeout-ms>] [--poll-interval-ms <poll-interval-ms>] " ++
  "[--prompt <prompt>] [-v]\n\n" ++
  "Interactive command interpreter with built-in `fib` and `caesar` commands. " ++
  "External programs are killed once they run past the timeout.\n\n" ++
  "Options:\n" ++
  "  --timeout-ms      milliseconds an external program may run before it is killed\n" ++
  "                    (default 5000)\n" ++
  "  --poll-interval-ms\n" ++
  "                    milliseconds between two checks of a running program\n" ++
  "                    (default 100)\n" ++
  "  --prompt          prompt printed before each line\n" ++
  "  -v, --verbose     log debug diagnostics to stderr\n" ++
  "  --help, help      display usage information\n"

def Exit.text (command : String) : Exit → String
  | .help => helpText command
  | .fault f => f.message

inductive LimitError where
  | zeroTimeout
  | zeroPollInterval
  deriving DecidableEq, Repr

def LimitError.message : LimitError → String
  | .zeroTimeout => "--timeout-ms must be greater than zero"
  | .zeroPollInterval => "--poll-interval-ms must be greater than zero"

def limits (o : Options) : Except LimitError Limits :=
  if o.timeoutMs = 0 then .error .zeroTimeout
  else if o.pollIntervalMs = 0 then .error .zeroPollInterval
  else .ok ⟨.ofMillis o.timeoutMs, .ofMillis o.pollIntervalMs⟩

def logLevel (o : Options) : Log.Level := if o.verbose then .debug else .warn

end Options

end SupervisedShell
