import SupervisedShell.System.Basic
import SupervisedShell.System.Path

set_option autoImplicit false

namespace SupervisedShell.Search

variable {σ : Type}

def firstExecutable (sys : System σ) : List Bytes → σ → Option Bytes × σ
  | [], s => (none, s)
  | candidate :: rest, s =>
    match sys.facts candidate s with
    | (some facts, s) =>
      if facts.isExecutable then (some candidate, s) else firstExecutable sys rest s
    | (none, s) => firstExecutable sys rest s

/-- The program of a name. A path need not be executable, that is left to the attempt
to start it. -/
def program (sys : System σ) (path? : Option Bytes) (name : Bytes) (s : σ) : Option Bytes × σ :=
  if name.isEmpty then (none, s)
  else if name.contains Path.slash then
    match sys.facts name s with
    | (some facts, s) => (if facts.isRegular then some name else none, s)
    | (none, s) => (none, s)
  else
    match path? with
    | some path => firstExecutable sys ((Path.directories path).map (Path.join · name)) s
    | none => (none, s)

end SupervisedShell.Search
