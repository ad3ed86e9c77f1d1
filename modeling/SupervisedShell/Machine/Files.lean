import SupervisedShell.System.Basic
import SupervisedShell.System.Path
/-!
The files of a machine. Paths are bytes; a path is walked name by name from a directory, links are
followed on the way, and the first name that cannot be entered gives the error. A change of what
stands at a place leaves the moment there, and a new name in a directory leaves it on the directory
too.
-/

set_option autoImplicit false

namespace SupervisedShell

/-- The programs that belong to the machine itself. -/
inductive Tool where
  | sh
  | sleep
  | true
  | false
  | cat
  | env
  | echo
  deriving DecidableEq, Repr

inductive Content where
  | bytes (b : ByteArray)
  | tool (t : Tool)

inductive Device where
  | null
  | zero
  | full
  | terminal
  | descriptor (n : Nat)
  deriving DecidableEq, Repr

inductive Node where
  | directory (mode : Nat)
  | file (mode : Nat) (content : Content)
  | device (d : Device)
  | link (target : Bytes)

abbrev Place := List Bytes

inductive Right where
  | read
  | write
  | execute
  deriving DecidableEq, Repr

def Right.bit : Right → Nat
  | .read => 0o400
  | .write => 0o200
  | .execute => 0o100

namespace Node

def ofBytes (mode : Nat) (b : Bytes) : Node := .file mode (.bytes ⟨b.toArray⟩)

def mode : Node → Nat
  | .directory mode => mode
  | .file mode _ => mode
  | .device _ => 0o666
  | .link _ => 0o777

def permits (n : Node) (r : Right) : Bool := n.mode &&& r.bit ≠ 0

def isDirectory : Node → Bool
  | .directory _ => true
  | _ => false

def isRegular : Node → Bool
  | .file .. => true
  | _ => false

def facts (n : Node) : FileFacts := ⟨n.isRegular, n.mode⟩

def bytes : Node → ByteArray
  | .file _ (.bytes b) => b
  | _ => .empty

end Node

/-- What stands at a place, and when it was changed last. -/
structure Entry where
  node : Node
  changed : Instant

structure Files where
  entries : List (Place × Entry)

/-- Where a path leads: a place, and what is there, if anything is. -/
structure Spot where
  place : Place
  node? : Option Node

namespace Files

def longestPath : Nat := 4095

def longestName : Nat := 255

def lookUp? (f : Files) (p : Place) : Option Entry := (f.entries.find? (·.1 = p)).map (·.2)

def node? (f : Files) (p : Place) : Option Node :=
  if p.isEmpty then some (.directory 0o755) else (f.lookUp? p).map (·.node)

def touch (f : Files) (t : Instant) (p : Place) : Files :=
  ⟨f.entries.map fun (q, e) => (q, if q = p then { e with changed := t } else e)⟩

def put (f : Files) (t : Instant) (p : Place) (n : Node) : Files :=
  if (f.lookUp? p).isSome then
    ⟨f.entries.map fun (q, e) => (q, if q = p then ⟨n, t⟩ else e)⟩
  else ⟨(p, ⟨n, t⟩) :: (f.touch t p.dropLast).entries⟩

def names (f : Files) (p : Place) : List Bytes :=
  f.entries.filterMap fun (q, _) => if q.dropLast = p ∧ q ≠ [] then q.getLast? else none

def dot : Bytes := [0x2E]

def dotDot : Bytes := [0x2E, 0x2E]

def parts (path : Bytes) : List Bytes :=
  (path.splitOnP (· = Path.slash)).filter (fun part => !part.isEmpty)

def start (origin : Place) (path : Bytes) : Place :=
  if path.head? = some Path.slash then [] else origin

/-- How far names lead without a link: to their end, or to a link with names behind it. -/
inductive Reach where
  | spot (s : Spot)
  | link (directory : Place) (target : Bytes) (rest : List Bytes)

def reach (f : Files) (followLast : Bool) : List Bytes → Place → Except IoError Reach
  | [], p => .ok (.spot ⟨p, f.node? p⟩)
  | name :: rest, p =>
    match f.node? p with
    | some (.directory mode) =>
      if mode &&& Right.execute.bit = 0 then .error Errno.denied
      else if name = dot then reach f followLast rest p
      else if name = dotDot then reach f followLast rest p.dropLast
      else if longestName < name.length then .error Errno.nameTooLong
      else
        match f.node? (p ++ [name]) with
        | none =>
          if rest.isEmpty then .ok (.spot ⟨p ++ [name], none⟩) else .error Errno.notFound
        | some (.link target) =>
          if rest.isEmpty && !followLast then .ok (.spot ⟨p ++ [name], some (.link target)⟩)
          else .ok (.link p target rest)
        | some _ => reach f followLast rest (p ++ [name])
    | _ => .error Errno.notDirectory

def follow (f : Files) (followLast : Bool) :
    (links : Nat) → List Bytes → Place → Except IoError Spot
  | 0, _, _ => .error Errno.tooManyLevels
  | links + 1, names, p =>
    match f.reach followLast names p with
    | .error e => .error e
    | .ok (.spot s) => .ok s
    | .ok (.link directory target rest) =>
      follow f followLast links (parts target ++ rest) (start directory target)

def mostLinks : Nat := 40

def locate (f : Files) (origin : Place) (path : Bytes) (followLast : Bool) : Except IoError Spot :=
  if path.isEmpty then .error Errno.notFound
  else if longestPath < path.length then .error Errno.nameTooLong
  else
    let slashed := path.getLast? = some Path.slash
    match f.follow (followLast || slashed) (mostLinks + 1) (parts path) (start origin path) with
    | .error e => .error e
    | .ok s => if slashed && s.node?.any (!·.isDirectory) then .error Errno.notDirectory else .ok s

def walk (f : Files) (origin : Place) (path : Bytes) : Except IoError (Place × Node) :=
  match f.locate origin path true with
  | .error e => .error e
  | .ok ⟨p, some n⟩ => .ok (p, n)
  | .ok ⟨_, none⟩ => .error Errno.notFound

def changed? (f : Files) (origin : Place) (path : Bytes) : Option Instant :=
  match f.walk origin path with
  | .ok (p, _) => some ((f.lookUp? p).elim ⟨0⟩ (·.changed))
  | .error _ => none

def facts (f : Files) (origin : Place) (path : Bytes) : Option FileFacts :=
  match f.walk origin path with
  | .ok (_, n) => some n.facts
  | .error _ => none

def setUp : Instant := ⟨nanosPerSecond⟩

def makeWay (f : Files) : List Bytes → Place → Files × Place
  | [], p => (f, p)
  | name :: rest, p =>
    if name = dot then makeWay f rest p
    else if name = dotDot then makeWay f rest p.dropLast
    else
      let q := p ++ [name]
      makeWay (if (f.node? q).isSome then f else f.put setUp q (.directory 0o755)) rest q

def add (f : Files) (origin : Place) (path : Bytes) (n : Node) : Files :=
  match n with
  | .directory _ => (f.makeWay (parts path) (start origin path)).1
  | _ =>
    let (f, p) := f.makeWay (parts path).dropLast (start origin path)
    f.put setUp (p ++ (parts path).getLast?.toList) n

def binaries : List (String × Tool) :=
  [("sh", .sh), ("dash", .sh), ("sleep", .sleep), ("true", .true), ("false", .false), ("cat", .cat),
   ("env", .env), ("echo", .echo)]

def place (names : List String) : Place := names.map Utf8.encode

def session : Place := place ["tmp", "session"]

/-- A small machine: its programs in one directory, which the older names of it link to, the usual
devices, and an empty directory to work in. -/
def standard : Files :=
  let at_ (names : List String) (n : Node) : Place × Entry := (place names, ⟨n, ⟨0⟩⟩)
  let directory (names : List String) : Place × Entry := at_ names (.directory 0o755)
  let binary (b : String × Tool) : Place × Entry :=
    at_ ["usr", "bin", b.1] (.file 0o755 (.tool b.2))
  let device (name : String) (d : Device) : Place × Entry := at_ ["dev", name] (.device d)
  let link (names : List String) (target : String) : Place × Entry :=
    at_ names (.link (Utf8.encode target))
  { entries :=
      [(session, ⟨.directory 0o755, setUp⟩)] ++ binaries.map binary ++
      [["usr"], ["usr", "bin"], ["usr", "sbin"], ["usr", "lib"], ["usr", "local"],
        ["usr", "local", "bin"], ["etc"], ["dev"], ["dev", "fd"],
        ["proc"], ["root"], ["home"], ["var"], ["opt"]].map directory ++
      [at_ ["tmp"] (.directory 0o1777), device "null" .null, device "zero" .zero,
        device "full" .full,
        device "tty" .terminal, device "stdin" (.descriptor 0), device "stdout" (.descriptor 1),
        device "stderr" (.descriptor 2)] ++
      (List.range 10).map (fun n => at_ ["dev", "fd", toString n] (.device (.descriptor n))) ++
      [link ["bin"] "usr/bin", link ["sbin"] "usr/sbin", link ["lib"] "usr/lib",
        at_ ["etc", "passwd"] (Node.ofBytes 0o644 [])] }

end Files

end SupervisedShell
