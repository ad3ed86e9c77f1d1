import SupervisedShell.Editor
import SupervisedShell.Machine.Terminal
import SupervisedShell.Options

set_option autoImplicit false

namespace SupervisedShell.CommandLine

/-- What a program finds when it is started. -/
structure Surroundings where
  args : List String
  logFilter? : Option String
  terminal? : Option String
  machine : Machine

structure Result where
  status : Nat
  output : Bytes
  errors : Bytes
  deriving DecidableEq, Repr

def command : String := "sword-shell"

def Result.ofTexts (status : Nat) (output errors : String) : Result :=
  ⟨status, Utf8.encode output, Utf8.encode errors⟩

def tryHelp : String := s!"Run {command} --help for more information."

def filter (s : Surroundings) (o : Options) : Log.Filter × List String :=
  match s.logFilter? with
  | some t => Log.Filter.ofText t
  | none => (.ofLevel o.logLevel, [])

def complaints (cs : List String) : String :=
  String.join (cs.map fun c => s!"warning: {c}, ignoring it\n")

def session (s : Surroundings) (o : Options) (limits : Limits) (t : Terminal) : Terminal :=
  let host := Terminal.host
  let sh : Interpreter Terminal := ⟨host, standardFactories host, o.prompt⟩
  let env := { Environment.ofSearchPath s.machine.searchPath? with limits := limits }
  let source := Editor.source Terminal.inlet host.toOutlet (Editor.isSimple s.terminal?)
  match sh.session source env (Editor.ofSize s.machine.inputSize) t with
  | (.ok (), _, _, t) => t
  | (.error f, _, _, t) => host.log (.sessionFailed f.chain) t

def run (s : Surroundings) : Result :=
  match Options.ofArgs s.args with
  | .error .help => .ofTexts 0 (Options.helpText command ++ "\n") ""
  | .error (.fault f) => .ofTexts 1 "" s!"{f.message}\n{tryHelp}\n"
  | .ok o =>
    let (filter, bad) := filter s o
    match o.limits with
    | .error e => .ofTexts 1 "" s!"{complaints bad}Error: {e.message}\n"
    | .ok limits =>
      let t := session s o limits (Terminal.start s.machine filter)
      let output := if s.machine.full then [] else t.machine.output ++ t.held
      ⟨0, output, Utf8.encode (complaints bad) ++ t.machine.errors⟩

end SupervisedShell.CommandLine
