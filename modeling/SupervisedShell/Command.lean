import SupervisedShell.Environment
import SupervisedShell.System.Printing
/-!
Commands: actions on the environment and on the world outside that end with an exit code or fail. A
factory turns a name and its arguments into a command, or leaves the name to others.
-/

set_option autoImplicit false

namespace SupervisedShell

inductive Failure where
  | io (cause : IoError)
  | unknownCommand (name : String)
  | inputGone
  | editor (cause : IoError)
  | own (reason : String)
  | within (context : String) (inner : Failure)
  deriving DecidableEq, Repr

namespace Failure

def causes : Failure → List String
  | io cause => [cause.message]
  | unknownCommand name => [s!"command not found: {name}"]
  | inputGone => ["input stream is gone"]
  | editor cause => [cause.message, cause.message]
  | own reason => [reason]
  | within context inner => context :: inner.causes

def message (f : Failure) : String := f.causes.headD ""

def chain (f : Failure) : String := ": ".intercalate f.causes

def pieces : Failure → List String
  | io cause | editor cause => cause.pieces
  | f => [f.message]

@[simp] theorem join_pieces (f : Failure) : String.join f.pieces = f.message := by
  cases f <;> simp [pieces, message, causes]

def report (f : Failure) : Line := .ofTexts ("Error: " :: f.pieces)

@[simp] theorem text_report (f : Failure) : f.report.text = s!"Error: {f.message}" := by
  simp [report, toString]

end Failure

def Action (σ α : Type) : Type := Environment → σ → Except Failure α × Environment × σ

namespace Action

variable {σ α β : Type}

def pure (a : α) : Action σ α := fun env s => (.ok a, env, s)

def fail (f : Failure) : Action σ α := fun env s => (.error f, env, s)

def bind (x : Action σ α) (f : α → Action σ β) : Action σ β := fun env s =>
  match x env s with
  | (.ok a, env, s) => f a env s
  | (.error e, env, s) => (.error e, env, s)

instance : Monad (Action σ) where
  pure := pure
  bind := bind

def attempt (x : Action σ α) : Action σ (Except Failure α) := fun env s =>
  match x env s with
  | (r, env, s) => (.ok r, env, s)

def change (f : σ → σ) : Action σ Unit := fun env s => (.ok (), env, f s)

def ask (f : σ → α × σ) : Action σ α := fun env s => (.ok (f s).1, env, (f s).2)

def io (f : σ → Except IoError α × σ) : Action σ α := fun env s =>
  match f s with
  | (.ok a, s) => (.ok a, env, s)
  | (.error e, s) => (.error (.io e), env, s)

def environment : Action σ Environment := fun env s => (.ok env, env, s)

def leave : Action σ Unit := fun env s => (.ok (), { env with shouldExit := true }, s)

def log (host : Host σ) (r : Log.Record) : Action σ Unit := change (host.log r)

def printLine (host : Host σ) (l : Line) : Action σ Unit := io (host.toOutlet.printLine l)

end Action

abbrev Command (σ : Type) := Action σ ExitCode

abbrev Factory (σ : Type) := Environment → String → List String → Option (Command σ)

end SupervisedShell
