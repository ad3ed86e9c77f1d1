import SupervisedShell.Command

set_option autoImplicit false

namespace SupervisedShell

structure Plugin where
  name? : Option String
  output : String
  echoes : Bool
  leaves : Bool
  failure? : Option Failure
  code : ExitCode
  deriving DecidableEq, Repr

namespace Plugin

variable {σ : Type}

def knows (p : Plugin) (name : String) : Bool := p.name?.all (· = name)

def echo (name : String) (args : List String) : String := "|".intercalate (name :: args)

def run (host : Host σ) (p : Plugin) (name : String) (args : List String) :
    Action σ ExitCode := do
  Action.io (host.toOutlet.writeAll (Utf8.encode p.output))
  if p.echoes then Action.printLine host (.ofText (echo name args))
  if p.leaves then Action.leave
  match p.failure? with
  | some f => Action.fail f
  | none => return p.code

def factory (host : Host σ) (p : Plugin) : Factory σ := fun _ name args =>
  if p.knows name then some (p.run host name args) else none

end Plugin

end SupervisedShell
