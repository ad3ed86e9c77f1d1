import SupervisedShell.Caesar
import SupervisedShell.Command
import SupervisedShell.Fibonacci
/-!
The commands that the shell runs itself: `fib` prints a Fibonacci number, `caesar` prints a text
enciphered, `exit` ends the session. Their names are taken even where their arguments are rejected.
-/

set_option autoImplicit false

namespace SupervisedShell

inductive Builtin where
  | fib (n : Nat)
  | caesar (shift : Int) (words : List String)
  | exit
  deriving DecidableEq, Repr

inductive BuiltinError where
  | fibUsage
  | fibInvalid
  | fibTooLarge
  | caesarInvalid
  | outOfMemory (cause : Caesar.Error)
  deriving DecidableEq, Repr

def BuiltinError.message : BuiltinError → String
  | fibUsage => "Usage: fib <n>"
  | fibInvalid => "Invalid input. Usage: fib <n>"
  | fibTooLarge => "Error: Fibonacci number too large."
  | caesarInvalid => "Invalid input. Usage: caesar <shift> <text>"
  | outOfMemory _ => "Error: Memory allocation failed."

def BuiltinError.chain : BuiltinError → String
  | outOfMemory cause => s!"{(outOfMemory cause).message}: {cause.chain}"
  | e => e.message

namespace Builtin

variable {σ : Type}

def name : Builtin → String
  | fib _ => "fib"
  | caesar .. => "caesar"
  | exit => "exit"

def integer (text : String) : Option Int × List Log.Record :=
  match Decimal.signed text with
  | .ok n => (some n, [])
  | .error .notDecimal => (none, [.notDecimal text])
  | .error (.outOfRange fault) => (none, [.outOfRange text fault])

def fibOfArgs : List String → Except BuiltinError Builtin × List Log.Record
  | [arg] =>
    match integer arg with
    | (some (.ofNat n), records) => (.ok (fib n), records)
    | (_, records) => (.error .fibInvalid, records)
  | _ => (.error .fibUsage, [])

def isShift (n : Int) : Bool := -2147483648 ≤ n && n ≤ 2147483647

def caesarOfArgs : List String → Except BuiltinError Builtin × List Log.Record
  | first :: word :: words =>
    match integer first with
    | (some n, records) =>
      if isShift n then (.ok (caesar n (word :: words)), records ++ [.shift n])
      else (.error .caesarInvalid, records)
    | (none, records) => (.error .caesarInvalid, records)
  | _ => (.error .caesarInvalid, [])

def exitOfArgs (args : List String) : Except BuiltinError Builtin × List Log.Record :=
  (.ok exit, if args.isEmpty then [] else [.ignored args.length])

/-- The built-in command of a name, or why its arguments are rejected, with the records of
the way there. -/
def ofArgs? (name : String) (args : List String) :
    Option (Except BuiltinError Builtin × List Log.Record) :=
  if name = "fib" then some (fibOfArgs args)
  else if name = "caesar" then some (caesarOfArgs args)
  else if name = "exit" then some (exitOfArgs args)
  else none

def result (grants : Nat → Bool) : Builtin → Except BuiltinError (Option String)
  | fib n =>
    let value := Fibonacci.compute n
    if value = Fibonacci.overflow then .error .fibTooLarge else .ok (some (toString value))
  | caesar shift words => ((Caesar.reserved grants shift words).mapError .outOfMemory).map some
  | exit => .ok none

/-- A command that has no result, or cannot print it, says so and fails. -/
def explain (host : Host σ) (b : Builtin) (message : Line) (chain : String) :
    Action σ ExitCode := do
  Action.log host (.builtinFailed b.name chain)
  Action.printLine host message
  return ExitCode.failure

def run (host : Host σ) (b : Builtin) : Action σ ExitCode :=
  match b.result host.grants with
  | .error e => b.explain host (.ofText e.message) e.chain
  | .ok (some line) => do
    match ← (Action.printLine host (.ofText line)).attempt with
    | .ok () => return ExitCode.success
    | .error f => b.explain host (.ofTexts f.pieces) f.chain
  | .ok none => do
    Action.leave
    return ExitCode.success

def reject (host : Host σ) (e : BuiltinError) : Action σ ExitCode := do
  Action.printLine host (.ofText e.message)
  return ExitCode.failure

def record (host : Host σ) (records : List Log.Record) : Action σ Unit :=
  Action.change fun s => records.foldl (fun s r => host.log r s) s

def perform (host : Host σ) (made : Except BuiltinError Builtin × List Log.Record) :
    Action σ ExitCode := do
  record host made.2
  match made.1 with
  | .ok b => b.run host
  | .error e => reject host e

def factory (host : Host σ) : Factory σ := fun _ name args =>
  (ofArgs? name args).map (perform host)

end Builtin

end SupervisedShell
