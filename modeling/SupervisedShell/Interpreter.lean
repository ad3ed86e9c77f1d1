import SupervisedShell.Builtin
import SupervisedShell.External
import SupervisedShell.LineSource
import SupervisedShell.Token
/-!
The interpreter: a line is split into tokens, the first of them names a command, and the first
factory that knows the name makes it. A session goes on from line to line until a command asks to
leave, the input ends, or the shell itself can no longer print.
-/

set_option autoImplicit false

namespace SupervisedShell

variable {ι σ : Type}

/-- The commands of a shell without plug-ins. The launcher comes last since it takes every name. -/
def standardFactories (host : Host σ) : List (Factory σ) :=
  [Builtin.factory host, External.factory host]

def dispatch (factories : List (Factory σ)) (name : String) (args : List String) :
    Action σ ExitCode :=
  fun env s =>
    match factories.findSome? (fun f => f env name args) with
    | some command => command env s
    | none => (.error (.unknownCommand name), env, s)

structure Interpreter (σ : Type) where
  host : Host σ
  factories : List (Factory σ)
  prompt : String

namespace Interpreter

def standardPrompt : String := "sword-shell> "

def executeLine (sh : Interpreter σ) (line : String) : Action σ (Option ExitCode) :=
  match tokenize line with
  | .error e => do
    Action.printLine sh.host ⟨"Error: " :: e.pieces, "."⟩
    return some ExitCode.failure
  | .ok argv =>
    match argv.command? with
    | none => return none
    | some name => do
      Action.log sh.host (.dispatching name argv.args.length)
      let code ← dispatch sh.factories name argv.args
      return some code

/-- Runs one line of a session. Its failure is printed and ends nothing. -/
def step (sh : Interpreter σ) (line : String) : Action σ Unit := do
  match ← (sh.executeLine line).attempt with
  | .ok (some code) => Action.log sh.host (.exitCode code)
  | .ok none => return ()
  | .error f =>
    Action.log sh.host (.commandFailed f.chain)
    Action.printLine sh.host f.report

def goodbye : Line := ⟨[], "Exiting sword-shell."⟩

def farewell (sh : Interpreter σ) : Action σ Unit := Action.printLine sh.host goodbye

def endOfLines (sh : Interpreter σ) (r : Log.Record) : Action σ Unit := do
  Action.log sh.host r
  Action.printLine sh.host .blank
  sh.farewell

def session (sh : Interpreter σ) (source : LineSource ι σ) (env : Environment)
    (input : ι) (s : σ) :
    Except Failure Unit × Environment × ι × σ :=
  if env.shouldExit then
    let (r, env, s) := sh.farewell env s
    (r, env, input, s)
  else
    match sh.host.flush s with
    | (.error e, s) => (.error (.io e), env, input, s)
    | (.ok (), s₁) =>
      match _read : source.read sh.prompt input s₁ with
      | (.ok (some line), input', s) =>
        match sh.step line env s with
        | (.ok (), env, s) => sh.session source env input' s
        | (.error f, env, s) => (.error f, env, input', s)
      | (.ok none, input', s) =>
        let (r, env, s) := sh.endOfLines .endOfInput env s
        (r, env, input', s)
      | (.error f, input', s) =>
        let (r, env, s) := sh.endOfLines (.readFailed f.chain) env s
        (r, env, input', s)
termination_by source.left input
decreasing_by
  have h := source.left_lt sh.prompt input s₁ line
  rw [_read] at h
  exact h rfl

end Interpreter

end SupervisedShell
