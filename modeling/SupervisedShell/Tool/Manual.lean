import SupervisedShell.Tool.Flags

set_option autoImplicit false

namespace SupervisedShell

/-- The word of the first option that asks a program about itself, before any fault. -/
def Flags.asked? (x : Flags) : Option String :=
  (x.given.find? fun g => Flag.common.contains g.1).bind fun g => g.1.word?

namespace Program

def tellOf (title word : String) (t : Task) (code failure : Nat) : Routine WaitStatus :=
  let page? := t.manuals.find? fun m => m.title = title && m.word = word
  deliver t (page?.elim "" fun m => t.name.intercalate m.parts) code failure

def idle (title : String) (code : Nat) : Program := fun t =>
  match t.argv.tail with
  | ["--help"] => tellOf title "help" t code 1
  | ["--version"] => tellOf title "version" t code 1
  | _ => return .exited code

end Program

end SupervisedShell
