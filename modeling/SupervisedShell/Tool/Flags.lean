import SupervisedShell.Machine.Task
/-!
The options of a program: letters behind a dash, which may stand together, and words behind two,
which may be cut short. Operands may stand between them if the program allows it.
-/

set_option autoImplicit false

namespace SupervisedShell

/-- What an option takes with it. -/
inductive Extra where
  | nothing
  | optional
  | value
  deriving DecidableEq, Repr

structure Flag where
  letter? : Option Char
  word? : Option String
  extra : Extra
  isLast : Bool
  deriving DecidableEq, Repr

namespace Flag

def plain (letter : Char) (word? : Option String) : Flag :=
  ⟨some letter, word?, .nothing, false⟩

def valued (letter : Char) (word : String) : Flag := ⟨some letter, some word, .value, false⟩

def word (w : String) (extra : Extra) : Flag := ⟨none, some w, extra, false⟩

def common : List Flag := [word "help" .nothing, word "version" .nothing]

def long (f : Flag) : String := "-" ++ "-" ++ f.word?.getD ""

def missing (f : Flag) (byWord : Bool) : String :=
  match byWord, f.letter? with
  | false, some c => "option requires an argument -- " ++ s!"'{c}'"
  | _, _ => s!"option '{f.long}' requires an argument"

end Flag

/-- What stands on a command line. A fault ends the options. -/
structure Flags where
  given : List (Flag × Option String)
  operands : List String
  fault? : Option String
  deriving DecidableEq, Repr

namespace Flags

def push (f : Flag) (value? : Option String) (x : Flags) : Flags :=
  { x with given := (f, value?) :: x.given }

def operand (s : String) (x : Flags) : Flags := { x with operands := s :: x.operands }

def fault (message : String) : Flags := ⟨[], [], some message⟩

/-- The letters of one argument, up to one that takes a value. -/
inductive Letters where
  | all (given : List Flag)
  | valued (given : List Flag) (last : Flag) (value : List Char)
  | unknown (given : List Flag) (c : Char)

def Letters.push (f : Flag) : Letters → Letters
  | all fs => all (f :: fs)
  | valued fs last value => valued (f :: fs) last value
  | unknown fs c => unknown (f :: fs) c

def letters (known : List Flag) : List Char → Letters
  | [] => .all []
  | c :: rest =>
    match known.find? (·.letter? = some c) with
    | none => .unknown [] c
    | some f => if f.extra = .value then .valued [] f rest else (letters known rest).push f

def matching (known : List Flag) (word : String) : List Flag :=
  match known.find? (·.word? = some word) with
  | some f => [f]
  | none => known.filter fun f => f.word?.any fun w => word.toList.isPrefixOf w.toList

def pushAll (fs : List Flag) (x : Flags) : Flags := fs.foldr (fun f => push f none) x

/-- Reads a command line from left to right. An option may wait for its value. -/
def read (known : List Flag) (permutes : Bool) (waiting? : Option (Flag × Bool)) :
    List String → Flags
  | [] =>
    match waiting? with
    | some (f, byWord) => fault (Flag.missing f byWord)
    | none => ⟨[], [], none⟩
  | s :: rest =>
    let behind (f : Flag) : Flags :=
      if f.isLast then ⟨[], rest, none⟩ else read known permutes none rest
    match waiting?, s.toList with
    | some (f, _), _ => (behind f).push f (some s)
    | none, ['-', '-'] => ⟨[], rest, none⟩
    | none, '-' :: '-' :: long =>
      let word := String.ofList (long.takeWhile (· ≠ '='))
      let value? : Option String :=
        if long.contains '=' then some (String.ofList ((long.dropWhile (· ≠ '=')).drop 1))
          else none
      match matching known word with
      | [] => fault s!"unrecognized option '{s}'"
      | [f] =>
        match f.extra, value? with
        | .nothing, some _ => fault s!"option '{f.long}' doesn't allow an argument"
        | .value, none => read known permutes (some (f, true)) rest
        | _, _ => (behind f).push f value?
      | fs =>
        let words := fs.map fun f => s!" '{f.long}'"
        fault s!"option '{s}' is ambiguous; possibilities:{String.join words}"
    | none, '-' :: c :: cs =>
      match letters known (c :: cs) with
      | .all fs => (read known permutes none rest).pushAll fs
      | .unknown fs c => (fault ("invalid option -- " ++ s!"'{c}'")).pushAll fs
      | .valued fs last [] => (read known permutes (some (last, false)) rest).pushAll fs
      | .valued fs last value => ((behind last).push last (some (String.ofList value))).pushAll fs
    | none, _ =>
      if permutes then (read known permutes none rest).operand s else ⟨[], s :: rest, none⟩

def has (x : Flags) (letter : Char) : Bool := x.given.any (·.1.letter? = some letter)

end Flags

namespace Program

def tryHelp (name : String) : String := s!"Try '{name} --help' for more information."

def misused (t : Task) (message : String) (code : Nat) : Routine WaitStatus :=
  fails s!"{t.name}: {message}\n{tryHelp t.name}" code t

def deliver (t : Task) (text : String) (code failure : Nat) : Routine WaitStatus := do
  match ← t.write 1 text with
  | .ok () => return .exited code
  | .error e => fails s!"{t.name}: write error: {reason e}" failure t

end Program

end SupervisedShell
