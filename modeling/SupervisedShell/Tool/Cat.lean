import SupervisedShell.Tool.Manual
import SupervisedShell.Tool.Quoting
/-!
The program that prints files one after the other, or what it reads where no file is named. It can
number the lines, squeeze blank ones, and show what cannot be seen.
-/

set_option autoImplicit false

namespace SupervisedShell.Program.Cat

structure Style where
  numbersAll : Bool
  numbersFilled : Bool
  squeezes : Bool
  showsEnds : Bool
  showsTabs : Bool
  showsControls : Bool

def Style.isPlain (s : Style) : Bool :=
  !(s.numbersAll || s.numbersFilled || s.squeezes || s.showsEnds || s.showsTabs || s.showsControls)

def known : List Flag :=
  [.plain 'b' "number-nonblank", .plain 'n' "number", .plain 's' "squeeze-blank",
    .plain 'v' "show-nonprinting", .plain 'E' "show-ends", .plain 'T' "show-tabs",
      .plain 'A' "show-all",
    .plain 'e' none, .plain 't' none, .plain 'u' none] ++ Flag.common

def styleOf (x : Flags) : Style :=
  let some? (letters : List Char) : Bool := letters.any x.has
  { numbersAll := x.has 'n' && !x.has 'b', numbersFilled := x.has 'b', squeezes := x.has 's'
    showsEnds := some? ['A', 'e', 'E'], showsTabs := some? ['A', 't', 'T']
    showsControls := some? ['A', 'e', 't', 'v'] }

/-- What is kept from file to file. -/
structure Position where
  line : Nat
  feeds : Nat
  returned : Bool

def start : Position := ⟨1, 1, false⟩

def visible (b : UInt8) : Bytes :=
  let low (b : UInt8) : Bytes :=
    if b < 0x20 then [0x5E, b + 0x40] else if b = 0x7F then [0x5E, 0x3F] else [b]
  if b < 0x80 then low b else [0x4D, 0x2D] ++ low (b - 0x80)

def shown (s : Style) (b : UInt8) : Bytes :=
  if b = 0x09 then if s.showsTabs then [0x5E, 0x49] else [b]
  else if s.showsControls then visible b
  else [b]

def numbered (n : Nat) : Bytes :=
  let digits := (toString n).toList
  Utf8.encode (String.ofList (List.replicate (6 - digits.length) ' ' ++ digits) ++ "\t")

def step (s : Style) (acc : Bytes × Position) (b : UInt8) : Bytes × Position :=
  let (out, p) := acc
  let atStart : Bool := 0 < p.feeds
  if b = 0x0A then
    let feeds := min 3 (p.feeds + 1)
    if s.squeezes && feeds = 3 then (out, { p with feeds := feeds })
    else
      let numbers := atStart && s.numbersAll
      let head := if numbers then numbered p.line else []
      let held : Bytes := if p.returned then [0x5E, 0x4D] else []
      let tail : Bytes := if s.showsEnds then [0x24, b] else [b]
      ((head ++ held ++ tail).reverse ++ out,
        ⟨if numbers then p.line + 1 else p.line, feeds, false⟩)
  else
    let numbers := atStart && (s.numbersAll || s.numbersFilled)
    let head := if numbers then numbered p.line else []
    let held : Bytes := if p.returned then [0x0D] else []
    let line := if numbers then p.line + 1 else p.line
    if b = 0x0D && s.showsEnds && !s.showsControls then
      ((head ++ held).reverse ++ out, ⟨line, 0, true⟩)
    else ((head ++ held ++ shown s b).reverse ++ out, ⟨line, 0, false⟩)

def render (s : Style) (p : Position) (b : Bytes) : Bytes × Position :=
  if s.isPlain then (b, p)
  else
    let (out, p) := b.foldl (step s) ([], p)
    (out.reverse, p)

abbrev Work := ExceptT Nat Routine

def seen {α : Type} (f : World → α) : Work α := ExceptT.lift (Routine.seen f)

/-- How far the work has come. -/
structure Progress where
  position : Position
  failed : Bool

def complain (t : Task) (message : String) : Work Unit := t.complain s!"{t.name}: {message}"

def fault (t : Task) (path : String) (e : IoError) (x : Progress) : Work Progress := do
  complain t s!"{Quoting.typed path}: {reason e}"
  return { x with failed := true }

def print (t : Task) (b : Bytes) : Work Unit := do
  match ← t.writeBytes 1 b with
  | .ok () => return ()
  | .error e => do
    complain t s!"write error: {reason e}"
    throw 1

def chasesItself (t : Task) (w : World) (n : Nat) : Bool :=
  match t.channel? w n, t.channel? w 1 with
  | some (.file p offset _), some (.file q _ _) =>
    p = q && offset < ((w.files.node? p).elim 0 fun f => f.bytes.size)
  | _, _ => false

def piece : Nat := 131072

def isIdle (t : Task) (w : World) (n : Nat) : Bool :=
  let zeros : Bool :=
    match t.channel? w n with
    | some (.device d) => d ≠ .null
    | _ => false
  let flows : Bool :=
    match t.channel? w 1 with
    | some (.pipe _) => true
    | _ => false
  zeros && !flows

def copy (t : Task) (s : Style) (path : String) (n : Nat) :
    (pieces : Nat) → Progress → Work Progress
  | 0, x => return x
  | pieces + 1, x => do
    match ← t.read n piece with
    | .fault e => fault t path e x
    | .bytes b =>
      if b.isEmpty then return x
      else
        Routine.work (1 + b.length / Page.size)
        let (out, position) := render s x.position b
        print t out
        let idle ← seen fun w => isIdle t w n
        if idle then Routine.forever else copy t s path n pieces { x with position }

def mostPieces : Nat := 1000000000000

def copyOnce (t : Task) (s : Style) (path : String) (n : Nat) (x : Progress) : Work Progress := do
  let chases ← seen fun w => chasesItself t w n
  if chases then
    complain t s!"{Quoting.typed path}: input file is output file"
    return { x with failed := true }
  else copy t s path n mostPieces x

def file (t : Task) (s : Style) (x : Progress) (path : String) : Work Progress := do
  if path = "-" then
    let isOpen ← seen fun w => (w.opening t.pid 0).isSome
    if isOpen then copyOnce t s path 0 x else fault t path Errno.badDescriptor x
  else
    match ← ExceptT.lift (Routine.call (t.openFile path .reading)) with
    | .error e => fault t path e x
    | .ok n => do
      let x ← copyOnce t s path n x
      Routine.change fun w => w.close t.pid n
      return x

def whole (t : Task) (s : Style) (paths : List String) : Work Nat := do
  let isClosed (n : Nat) : Work Bool := seen fun w => (w.opening t.pid n).isNone
  let mute ← isClosed 1
  if mute then
    complain t s!"standard output: {reason Errno.badDescriptor}"
    return 1
  let x ← paths.foldlM (file t s) ⟨start, false⟩
  if x.position.returned then print t [0x0D]
  let deaf ← isClosed 0
  if paths.contains "-" && deaf then
    complain t s!"closing standard input: {reason Errno.badDescriptor}"
    return 1
  return if x.failed then 1 else 0

end Cat

def cat : Program := fun t => do
  let x := Flags.read Cat.known true none t.argv.tail
  match x.asked?, x.fault? with
  | some word, _ => tellOf "cat" word t 0 1
  | none, some message => misused t message 1
  | none, none => do
    let paths := if x.operands.isEmpty then ["-"] else x.operands
    match ← (Cat.whole t (Cat.styleOf x) paths).run with
    | .ok code | .error code => return .exited code

end SupervisedShell.Program
