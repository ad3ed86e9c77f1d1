import SupervisedShell.Script.Evaluation

set_option autoImplicit false

namespace SupervisedShell

namespace Script

def Variable.standard : List (String × String) :=
  [("PATH", Builtin.usualPath), ("PS1", "# "), ("PS2", "> "), ("PS4", "+ ")]

def Variable.own (t : Task) : List (String × String) :=
  [("IFS", " \t\n"), ("OPTIND", "1"), ("PPID", toString t.parent)]

def Run.whereaboutsOf (t : Task) (w : World) : String :=
  let here := Builtin.pathOf t.directory
  match t.valueOf? "PWD" with
  | some path =>
    match path.toList.head?, t.walk w path with
    | some '/', .ok (p, _) => if p = t.directory then path else here
    | _, _ => here
  | none => here

def Run.withVariable (exports : Bool) (r : Run) (v : String × String) : Run :=
  let exported := exports || (r.binding? v.1).any (·.exported)
  r.putVariable v.1 (some ⟨some v.2, exported, false⟩)

def Run.start (t : Task) (w : World) (deaf : List Nat) : Run :=
  let whereabouts := Run.whereaboutsOf t w
  let empty : Run :=
    { task := t, root := t.pid, deaf := deaf, zero := t.name, speaker? := none, params := []
      bindings := [], functions := [], aliases := [], options := [], status := 0, innerStatus := 0
      exitStatus? := none, line := 0, lastBackground? := none, jobs := [], replaced := []
      remembered := [], traps := [], pending := [], skipping := .no, loops := 0, calls :=
        0, saved := []
      documents := [], nextDocument := 0, whereabouts := whereabouts, optionIndex := 1
      letterPlace? := none, held := [], heldLength := 0, lost := false }
  let standard := Variable.standard.foldl (Run.withVariable false) empty
  let given := (t.environment.filter (isName ·.1)).foldl (Run.withVariable true) standard
  ((Variable.own t).foldl (Run.withVariable false) given).withVariable true ("PWD", whereabouts)

namespace Within

def session (x : Within) (args : List String) : Act Unit := do
  let (options, rest, _) ← Builtin.OptionReader.read ⟨true, [], []⟩ (args.length + 1) args
  Act.flush
  let givesText := options.given.contains 'c'
  if (← get).isOn 'i' then Builtin.turn 'm' true
  Builtin.renounceJobs
  if rest.isEmpty then
    if givesText then Act.fail "-c requires an argument"
    Builtin.turn 's' true
  let readsInput := (← get).isOn 's'
  let name (operands : List String) : Act Unit :=
    modify fun r => { r with zero := operands.headD r.zero, params := operands.tail }
  match givesText, rest with
  | true, text :: operands => do
    name operands
    let _ ← x.text ⟨!readsInput, false⟩ text
    if readsInput then
      let _ ← x.feed .plain (.ofChannel 0)
  | _, operands =>
    if readsInput then
      modify fun r => { r with params := operands }
      let _ ← x.feed .plain (.ofChannel 0)
    else
      let n ← openScript (operands.headD "")
      name operands
      let _ ← x.feed .plain (.ofChannel n)

end Within

end Script

namespace Program

def sh (run : Tool → Program) : Program := fun t => do
  Routine.change fun w => w.update t.pid fun p =>
    { p with ignored := p.ignored.filter (· ≠ World.childSignal) }
  let r ← Routine.seen fun w => Script.Run.start t w ((w.process? t.pid).elim [] (·.ignored))
  let x := Script.within run
  x.conclude (x.session t.argv.tail) r

end Program

end SupervisedShell
