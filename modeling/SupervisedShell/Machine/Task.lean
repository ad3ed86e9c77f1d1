import SupervisedShell.Machine.Course
import SupervisedShell.Machine.Image
/-!
A process as a program sees it: its arguments, its surroundings, and the numbers behind which it has
channels open.
-/

set_option autoImplicit false

namespace SupervisedShell

/-- What a program of the machine tells about itself if it is asked for it by a word. Between the
parts stands the name that the program is called by. -/
structure Manual where
  title : String
  word : String
  parts : List String
  deriving Repr

structure Task where
  pid : Nat
  parent : Nat
  argv : List String
  environment : List (String × String)
  directory : Place
  umask : Nat
  manuals : List Manual
  deriving Repr

abbrev Program := Task → Routine WaitStatus

inductive Purpose where
  | reading
  | writing
  | appending
  | creating
  | both
  deriving DecidableEq, Repr

namespace Purpose

def reads (p : Purpose) : Bool := p = .reading || p = .both

def writes (p : Purpose) : Bool := p ≠ .reading

def clears (p : Purpose) : Bool := p = .writing || p = .creating

end Purpose

namespace Task

def name (t : Task) : String := t.argv.headD ""

def valueOf? (t : Task) (name : String) : Option String :=
  (t.environment.find? (·.1 = name)).map (·.2)

def walk (t : Task) (w : World) (path : String) : Except IoError (Place × Node) :=
  w.files.walk t.directory (Octets.toBytes path)

def newMode (t : Task) : Nat := 0o666 &&& (0o777 - t.umask % 0o1000)

def channel? (t : Task) (w : World) (n : Nat) : Option Channel :=
  (w.opening t.pid n).bind fun id => (w.opening? id).map (·.channel)

def channelTo (p : Place) (n : Node) (purpose : Purpose) : Except IoError Channel :=
  if purpose = .creating && n.isRegular then .error Errno.exists_
  else if purpose.reads && !n.permits .read then .error Errno.denied
  else if purpose.writes && n.isDirectory then .error Errno.isDirectory
  else if purpose.writes && !n.permits .write then .error Errno.denied
  else
    match n with
    | .directory _ => .ok (.directory p)
    | .device .terminal => .error Errno.noSuchDevice
    | .device d => .ok (.device d)
    | .file .. => .ok (.file p 0 (purpose = .appending))
    | .link _ => .error Errno.tooManyLevels

/-- The channel to what a path leads to, and the machine with a file there that is new or cleared.
What the process has open under a number is opened once more. -/
def channelAt (t : Task) (w : World) (purpose : Purpose) (s : Spot) :
    Except IoError (Channel × World) :=
  let existing (p : Place) (n : Node) : Except IoError (Channel × World) :=
    (channelTo p n purpose).map fun c =>
      (c, if n.isRegular && purpose.clears then w.put p (Node.ofBytes n.mode []) else w)
  match s.node? with
  | some (.device (.descriptor k)) =>
    match t.channel? w k with
    | some (.file p _ _) =>
      match w.files.node? p with
      | some n => existing p n
      | none => .error Errno.notFound
    | some c => .ok (c, w)
    | none => .error Errno.notFound
  | some n => existing s.place n
  | none =>
    if !purpose.writes then .error Errno.notFound
    else if !(w.files.node? s.place.dropLast).any (·.permits .write) then .error Errno.denied
    else .ok (.file s.place 0 (purpose = .appending), w.put s.place (Node.ofBytes t.newMode []))

def openFile (t : Task) (path : String) (purpose : Purpose) (w : World) :
    Except IoError Nat × World :=
  if (w.freeNumber? t.pid 0).isNone then (.error Errno.tooManyFiles, w)
  else
    match w.files.locate t.directory (Octets.toBytes path) true with
    | .error e => (.error e, w)
    | .ok s =>
      match t.channelAt w purpose s with
      | .error e => (.error e, w)
      | .ok (c, w) => w.open_ t.pid ⟨c, purpose.reads, purpose.writes⟩

def writeFrom (t : Task) (n : Nat) : (pieces : Nat) → ByteArray → Routine (Except IoError Unit)
  | 0, _ => return .ok ()
  | pieces + 1, b => do
    match ← Routine.await fun w => w.write? t.pid n b with
    | .ok 0 => return .ok ()
    | .ok left => t.writeFrom n pieces (b.extract (b.size - left) b.size)
    | .error e => return .error e

def writeBytes (t : Task) (n : Nat) (b : Bytes) : Routine (Except IoError Unit) :=
  let bytes : ByteArray := ⟨b.toArray⟩
  t.writeFrom n (bytes.size + 1) bytes

def write (t : Task) (n : Nat) (text : String) : Routine (Except IoError Unit) :=
  t.writeBytes n (Octets.toBytes text)

def read (t : Task) (n most : Nat) : Routine Reading :=
  Routine.await fun w => w.read? t.pid n (.upTo most)

def complain (t : Task) (line : String) : Routine Unit := do
  let _ ← t.write 2 (line ++ "\n")

end Task

namespace Program

/-- The time that a program takes before it does anything, in a process of its own or not. -/
def startUp : Duration := .ofMillis 1

def loading : Duration := .ofMicros 700

def exits (code : Nat) : Program := fun _ => return .exited code

def fails (message : String) (code : Nat) : Program := fun t => do
  t.complain message
  return .exited code

def reason : IoError → String
  | .system code => systemText code
  | e => e.message

def become (run : Tool → Program) (i : Image) : Program := fun t => do
  Routine.change fun w => w.exec t.pid
  Routine.rest loading
  run i.tool { t with argv := i.argv }

end Program

end SupervisedShell
