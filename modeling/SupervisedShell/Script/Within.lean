import SupervisedShell.Script.Grammar
import SupervisedShell.Script.Redirection

set_option autoImplicit false

namespace SupervisedShell.Script

structure Position where
  final : Bool
  tested : Bool
  deriving DecidableEq, Repr

namespace Position

def plain : Position := ⟨false, false⟩

def last : Position := ⟨true, false⟩

def test : Position := ⟨false, true⟩

def inner (p : Position) : Position := { p with final := false }

end Position

structure Within where
  run : Tool → Program
  eval : Position → Script → Act Unit

/-- A text on its way into a run. -/
structure Feed where
  source : Source
  channel? : Option Nat
  shows : Bool

namespace Feed

def begin_ (cs : List Char) (continues : Bool) : Source :=
  { rest := cs, continues := continues, bound := cs.length, line := 1, pushed? := none,
    announced := []
    documents := [], nextDocument := 0, aliases := [], unfolding := [], blankEnds := [] }

def ofText (s : String) : Feed := ⟨begin_ (s.toList.filter (· ≠ '\x00')) false, none, false⟩

def ofChannel (n : Nat) : Feed := ⟨begin_ [] true, some n, true⟩

def piece : Nat := 8192

def more (f : Feed) : Act Feed := do
  let closed : Feed := { f with channel? := none, source := { f.source with continues := false } }
  match f.channel? with
  | none => return closed
  | some n =>
    match ← Act.await fun t w => w.read? t.pid n (.upTo piece) with
    | .fault _ | .bytes [] => return closed
    | .bytes b =>
      let cs := (Octets.ofBytes b).toList.filter (· ≠ '\x00')
      let s := f.source
      return { f with source := { s with rest := s.rest ++ cs, bound := s.bound + cs.length } }

def line (f : Feed) : (pieces : Nat) → Act (Feed × Except Fault (Option Script × Source))
  | 0 => return (f, .error (.unfit f.source.line "" 0))
  | n + 1 => do
    match (Reader.line.run f.source : Except Fault (Option Script × Source)) with
    | .error .open_ => do
      let f ← f.more
      f.line n
    | result => return (f, result)

def lines (f : Feed) (left : Nat) : String :=
  let rest := f.source.rest
  let front := rest.take (rest.length - left)
  if front.isEmpty || front.getLast? = some '\n' then String.ofList front
  else
    let behind := rest.drop front.length
    let line := behind.takeWhile (· ≠ '\n')
    String.ofList (front ++ line ++ (behind.drop line.length).take 1)

def echo (f : Feed) (result : Except Fault (Option Script × Source)) : Act Unit := do
  let r : Run ← get
  if f.shows && r.isOn 'v' then
    let left :=
      match result with
      | .ok (_, s) => s.rest.length
      | .error (.unfit _ _ left) => left
      | .error .open_ => 0
    let _ ← Act.write 2 (f.lines left)

end Feed

namespace Within

def mostLines : Nat := 1000000000000

/-- Runs the lines of a text one after the other, as long as nothing is to be passed over. The
position is that of its last line. -/
def lines (x : Within) (p : Position) : (lines : Nat) → Feed → (status : Nat) → Act Nat
  | 0, _, status => return status
  | n + 1, f, status => do
    let r ← get
    let source : Source :=
      { f.source with aliases := r.aliases, documents := [], nextDocument := r.nextDocument }
    let (f, result) ← Feed.line { f with source } mostLines
    f.echo result
    match result with
    | .error (.unfit line message _) => Act.failAt line s!"Syntax error: {message}"
    | .error .open_ | .ok (none, _) => return status
    | .ok (some script, s) => do
      let f : Feed := { f with source := s }
      match script with
      | .nothing => x.lines p n f status
      | script => do
        modify fun r =>
          { r with documents := s.documents ++ r.documents, nextDocument := s.nextDocument }
        x.eval { p with final := p.final && s.isAtEnd } script
        let r ← get
        if r.skipping = .no then x.lines p n f r.status else return r.status

def feed (x : Within) (p : Position) (f : Feed) : Act Nat := x.lines p mostLines f 0

def text (x : Within) (p : Position) (s : String) : Act Nat := x.feed p (.ofText s)

def farewell (x : Within) : Act Nat := do
  let r ← get
  let status := r.exitStatus?.getD r.status
  match r.trap? 0 with
  | none | some "" => return status
  | some action => do
    set { r with
      traps := r.traps.filter (·.1 ≠ 0), skipping := .no, status := status, exitStatus? :=
        some status }
    tryCatch
      (do
        let _ ← x.text .plain action
        return status)
      fun
        | .exit => do return (← get).exitStatus?.getD status
        | .failure => return Act.failureStatus

def conclude (x : Within) (a : Act Unit) (r : Run) : Routine WaitStatus := do
  let (end_, r) ← (a.run).run r
  let r : Run :=
    match end_ with
    | .error .exit => r
    | _ => { r with exitStatus? := none }
  let (end_, r) ← ((x.farewell).run).run r
  match end_ with
  | .ok status => return .exited (status % 256)
  | .error _ => return .exited (r.status % 256)

def actOnSignals (x : Within) : List Nat → Act Unit
  | [] => return ()
  | signal :: rest => do
    let r ← get
    if r.skipping ≠ .no then set { r with pending := signal :: rest }
    else
      match r.trap? signal with
      | none | some "" => x.actOnSignals rest
      | some action => do
        let outer? := r.exitStatus?
        set { r with exitStatus? := some (outer?.getD r.status) }
        let _ ← x.text .plain action
        modify fun s =>
          { s with
            status := if s.skipping = .returning true then s.status else r.status
            exitStatus? := outer? }
        x.actOnSignals rest

def answerSignals (x : Within) : Act Unit := do
  Act.takeSignals
  let r ← get
  if !r.pending.isEmpty then
    set { r with pending := [] }
    x.actOnSignals (r.pending.mergeSort fun a b => a ≤ b)

def hasTraps : Act Bool := do return (← get).traps.any (·.2 ≠ "")

end Within

end SupervisedShell.Script
