import SupervisedShell.Tool.Interval
import SupervisedShell.Tool.Manual
import SupervisedShell.Tool.Quoting

set_option autoImplicit false

namespace SupervisedShell.Program

def sleep : Program := fun t => do
  let x := Flags.read Flag.common true none t.argv.tail
  match x.asked?, x.fault? with
  | some word, _ => tellOf "sleep" word t 0 1
  | none, some message => misused t message 1
  | none, none =>
    if t.argv.tail.isEmpty then misused t "missing operand" 1
    else
      let bad := x.operands.filter fun a => (Interval.ofText? a).isNone
      if bad.isEmpty then
        match (x.operands.filterMap Interval.ofText?).foldl Interval.add (.lasting ⟨0⟩) with
        | .lasting d => do
          Routine.rest d
          return .exited 0
        | .endless => Routine.forever
      else
        let faults := bad.map fun a =>
          let word := Quoting.quoted a
          s!"{t.name}: invalid time interval {word}\n"
        fails (String.join faults ++ tryHelp t.name) 1 t

end SupervisedShell.Program
