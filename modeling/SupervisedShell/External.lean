import SupervisedShell.Command
import SupervisedShell.Search
import SupervisedShell.Supervisor.Handle

set_option autoImplicit false

namespace SupervisedShell.External

variable {σ : Type}

def start (host : Host σ) (env : Environment) (name : String) (args : List String) (s : σ) :
    Except ProgramError Report × σ :=
  match Search.program host.toSystem env.searchPath? (Utf8.encode name) s with
  | (none, s) => (.error (.notFound name), s)
  | (some program, s) => supervise host.toSystem env.limits ⟨program, name, args⟩ s

def conclude (host : Host σ) (name : String) : Except ProgramError Report → Action σ ExitCode
  | .ok r => do
    Action.log host (.reported name r.pid r.outcome r.elapsed)
    if !r.outcome.isExit then
      Action.printLine host (.ofTexts (name :: ": " :: r.outcome.pieces))
    return r.outcome.exitCode
  | .error e => do
    Action.printLine host (.ofTexts e.pieces)
    return e.exitCode

def run (host : Host σ) (name : String) (args : List String) : Action σ ExitCode := do
  Action.io host.flush
  let env ← Action.environment
  let result ← Action.ask (start host env name args)
  conclude host name result

def factory (host : Host σ) : Factory σ := fun _ name args => some (run host name args)

end SupervisedShell.External
