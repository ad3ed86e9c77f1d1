import SupervisedShell.Machine.Ceiling
import SupervisedShell.Machine.Channel
/-!
The machine as its processes see and change it: files, channels, and a table of the processes
themselves. What a process may wait for is counted as a change, so that nobody has to look again
before there was one.
-/

set_option autoImplicit false

namespace SupervisedShell

/-- An opening under a number of a process. -/
structure Descriptor where
  number : Nat
  opening : Nat
  isPrivate : Bool
  deriving DecidableEq, Repr

structure Process where
  pid : Nat
  parent : Nat
  descriptors : List Descriptor
  ceilings : Ceilings
  ignored : List Nat
  caught : List Nat
  pending : List Nat
  stopped : Bool
  ending? : Option WaitStatus
  deriving DecidableEq, Repr

structure World where
  files : Files
  clock : Instant
  processes : List Process
  openings : List (Nat × Opening)
  pipes : List (Nat × Pipe)
  nextPid : Nat
  nextId : Nat
  full : Bool
  output : List Bytes
  errors : List Bytes
  labour : Nat
  changes : Nat

/-- What reading gives: no byte at the end. -/
inductive Reading where
  | bytes (b : Bytes)
  | fault (e : IoError)
  deriving DecidableEq, Repr

namespace World

def stir (w : World) : World := { w with changes := w.changes + 1 }

def print (w : World) (s : Stream) (b : Bytes) : World :=
  match s with
  | .output => { w with output := b :: w.output }
  | .errors => { w with errors := b :: w.errors }

def stamp (w : World) : Instant :=
  let step := 4 * nanosPerMilli
  ⟨w.clock.nanos / step * step⟩

def put (w : World) (p : Place) (n : Node) : World :=
  { w with files := w.files.put w.stamp p n }.stir

def process? (w : World) (pid : Nat) : Option Process := w.processes.find? (·.pid = pid)

def isOver (w : World) (pid : Nat) : Bool := (w.process? pid).all (·.ending?.isSome)

def isStopped (w : World) (pid : Nat) : Bool := (w.process? pid).any (·.stopped)

def update (w : World) (pid : Nat) (f : Process → Process) : World :=
  { w with processes := w.processes.map fun p => if p.pid = pid then f p else p }

def descriptors (w : World) (pid : Nat) : List Descriptor :=
  (w.process? pid).elim [] (·.descriptors)

def ceiling (w : World) (pid : Nat) (r : Resource) : Ceiling :=
  (w.process? pid).elim .unlimited (·.ceilings.get r)

def setCeiling (w : World) (pid : Nat) (r : Resource) (c : Ceiling) :
    Except IoError Unit × World :=
  match ((w.process? pid).elim .standard (·.ceilings)).set r c with
  | .ok cs => (.ok (), w.update pid fun p => { p with ceilings := cs })
  | .error e => (.error e, w)

def opening? (w : World) (id : Nat) : Option Opening := (w.openings.find? (·.1 = id)).map (·.2)

def pipe? (w : World) (id : Nat) : Option Pipe := (w.pipes.find? (·.1 = id)).map (·.2)

def setPipe (w : World) (id : Nat) (p : Pipe) : World :=
  { w with pipes := w.pipes.map fun (i, q) => (i, if i = id then p else q) }.stir

def setChannel (w : World) (id : Nat) (c : Channel) : World :=
  { w with openings := w.openings.map fun (i, o) =>
    (i, if i = id then { o with channel := c } else o) }

def add (w : World) (o : Opening) : Nat × World :=
  (w.nextId, { w with openings := (w.nextId, o) :: w.openings, nextId := w.nextId + 1 })

def hasReader (w : World) (pipe : Nat) : Bool :=
  w.openings.any fun (_, o) => o.channel = .pipe pipe && o.reads

def hasWriter (w : World) (pipe : Nat) : Bool :=
  w.openings.any fun (_, o) => o.channel = .pipe pipe && o.writes

def isHeld (w : World) (id : Nat) : Bool :=
  w.processes.any fun p => p.descriptors.any fun d => d.opening = id

def release (w : World) (id : Nat) : World :=
  if w.isHeld id then w
  else
    let left : World := { w with openings := w.openings.filter (·.1 ≠ id) }
    match (w.opening? id).map Opening.channel with
    | some (.pipe pipe) =>
      let used := left.hasReader pipe || left.hasWriter pipe
      { left with pipes := if used then left.pipes else left.pipes.filter (·.1 ≠ pipe) }.stir
    | _ => left

def setDescriptors (w : World) (pid : Nat) (ds : List Descriptor) : World :=
  let gone := (w.descriptors pid).filter fun d => !ds.contains d
  gone.foldl (fun w d => w.release d.opening) (w.update pid fun p => { p with descriptors := ds })

def opening (w : World) (pid n : Nat) : Option Nat :=
  ((w.descriptors pid).find? (·.number = n)).map (·.opening)

def close (w : World) (pid n : Nat) : World :=
  w.setDescriptors pid ((w.descriptors pid).filter (·.number ≠ n))

def attach (w : World) (pid n id : Nat) (isPrivate : Bool) : World :=
  w.setDescriptors pid (⟨n, id, isPrivate⟩ :: (w.descriptors pid).filter (·.number ≠ n))

def freeNumber? (w : World) (pid least : Nat) : Option Nat :=
  let ds := w.descriptors pid
  let n? := (List.range (ds.length + 1)).find? fun i => !ds.any (·.number = least + i)
  match n?, (w.ceiling pid .files).soft? with
  | some i, some most => if least + i < most then some (least + i) else none
  | n?, _ => n?.map (least + ·)

def open_ (w : World) (pid : Nat) (o : Opening) : Except IoError Nat × World :=
  match w.freeNumber? pid 0 with
  | none => (.error Errno.tooManyFiles, w)
  | some n =>
    let (id, w) := w.add o
    (.ok n, w.attach pid n id false)

/-- Puts what is behind a number behind another one too, the lowest free one from one on. -/
def duplicateFrom (w : World) (pid source least : Nat) (isPrivate : Bool) :
    Except IoError Nat × World :=
  match w.opening pid source with
  | none => (.error Errno.badDescriptor, w)
  | some id =>
    if (w.ceiling pid .files).soft?.any (· ≤ least) then (.error Errno.invalid, w)
    else
      match w.freeNumber? pid least with
      | none => (.error Errno.tooManyFiles, w)
      | some n => (.ok n, w.attach pid n id isPrivate)

/-- Puts what is behind a number behind another one, whatever is there. -/
def duplicate (w : World) (pid source n : Nat) : Except IoError Unit × World :=
  match w.opening pid source with
  | none => (.error Errno.badDescriptor, w)
  | some id =>
    if (w.ceiling pid .files).soft?.any (· ≤ n) then (.error Errno.badDescriptor, w)
    else (.ok (), if source = n then w else w.attach pid n id false)

def openPipe (w : World) (pid : Nat) : Except IoError (Nat × Nat) × World :=
  let pipe := w.nextId
  let made : World := { w with pipes := (pipe, .empty) :: w.pipes, nextId := pipe + 1 }
  match made.open_ pid ⟨.pipe pipe, true, false⟩ with
  | (.error e, _) => (.error e, w)
  | (.ok reading, v) =>
    match v.open_ pid ⟨.pipe pipe, false, true⟩ with
    | (.error e, _) => (.error e, w)
    | (.ok writing, v) => (.ok (reading, writing), v)

def harmless : List Nat := [17, 18, 23, 28]

def idle : List Nat := [20, 21, 22]

def childSignal : Nat := 17

def await (w : World) (pid signal : Nat) : World :=
  (w.update pid fun p => { p with pending := p.pending.filter (· ≠ signal) ++ [signal] }).stir

def firstPid : Nat := 1

def orphan (w : World) (pid : Nat) : World :=
  { w with processes := w.processes.filterMap fun q =>
      if q.parent = pid then if q.ending?.isSome then none else some { q with parent := firstPid }
      else some q }

/-- Ends a process. Its parent may ask for the status, unless it does not want to know of
its children. -/
def finish (w : World) (pid : Nat) (status : WaitStatus) : World :=
  match w.process? pid with
  | none => w
  | some p =>
    if p.ending?.isSome then w
    else
      let w := (w.setDescriptors pid []).orphan pid
      match w.process? p.parent with
      | some parent =>
        if parent.ignored.contains childSignal then
          { w with processes := w.processes.filter (·.pid ≠ pid) }.stir
        else
          let w := (w.update pid fun q => { q with ending? := some status, stopped := false }).stir
          if parent.caught.contains childSignal then w.await p.parent childSignal else w
      | none => { w with processes := w.processes.filter (·.pid ≠ pid) }.stir

def signal (w : World) (pid signal : Nat) : Except IoError Unit × World :=
  match w.process? pid with
  | none => (if pid = firstPid then .ok () else .error Errno.noSuchProcess, w)
  | some p =>
    if signal = 0 || p.ending?.isSome then (.ok (), w)
    else if signal = Signal.kill then (.ok (), w.finish pid (.signaled signal false))
    else if signal = 19 then (.ok (), (w.update pid fun p => { p with stopped := true }).stir)
    else
      let w := if signal = 18 then (w.update pid fun p => { p with stopped := false }).stir else w
      if p.ignored.contains signal then (.ok (), w)
      else if p.caught.contains signal then (.ok (), w.await pid signal)
      else if harmless.contains signal || idle.contains signal then (.ok (), w)
      else (.ok (), w.finish pid (.signaled signal false))

def fork (w : World) (pid : Nat) : Nat × World :=
  let child := w.nextPid
  let p : Process :=
    (w.process? pid).getD ⟨pid, firstPid, [], .standard, [], [], [], false, none⟩
  let copy : Process := { p with pid := child, parent := pid, caught := [], pending := [] }
  (child, { w with processes := w.processes ++ [copy], nextPid := child + 1 })

def exec (w : World) (pid : Nat) : World :=
  (w.setDescriptors pid ((w.descriptors pid).filter (!·.isPrivate))).update pid fun p =>
    { p with caught := [], pending := [] }

def collect? (w : World) (parent : Nat) : Option ((Nat × WaitStatus) × World) :=
  w.processes.findSome? fun p =>
    if p.parent = parent then
      p.ending?.map fun status =>
        ((p.pid, status), { w with processes := w.processes.filter (·.pid ≠ p.pid) })
    else none

/-- A part of a reading: so many bytes at most, or up to the end of a line. -/
inductive Amount where
  | upTo (most : Nat)
  | line
  deriving DecidableEq, Repr

def readingEnd (a : Amount) (b : ByteArray) (start : Nat) : Nat :=
  match a with
  | .upTo most => min b.size (start + most)
  | .line => Pipe.lineEnd b (b.size - start) start

def read? (w : World) (pid n : Nat) (a : Amount) : Option (Reading × World) :=
  match (w.opening pid n).bind fun id => (w.opening? id).map fun o => (id, o) with
  | none => some (.fault Errno.badDescriptor, w)
  | some (id, o) =>
    if !o.reads then some (.fault Errno.badDescriptor, w)
    else
      match o.channel with
      | .stream _ => some (.fault Errno.badDescriptor, w)
      | .directory _ => some (.fault Errno.isDirectory, w)
      | .device .null => some (.bytes [], w)
      | .device _ =>
        match a with
        | .upTo most => some (.bytes (List.replicate most 0), w)
        | .line => none
      | .file p offset appends =>
        let content := (w.files.node? p).elim .empty Node.bytes
        let e := readingEnd a content offset
        if e ≤ offset then some (.bytes [], w)
        else
          some (.bytes (content.extract offset e).toList,
            (w.setChannel id (.file p e appends)).stir)
      | .pipe pipe =>
        match w.pipe? pipe with
        | none => some (.bytes [], w)
        | some q =>
          if q.isEmpty then if w.hasWriter pipe then none else some (.bytes [], w)
          else
            let most : Nat :=
              match a with
              | .upTo most => most
              | .line => Pipe.lineLength q.pages
            let (b, pages) := Pipe.pull most q.pages
            some (.bytes b.toList, w.setPipe pipe ⟨pages⟩)

def largestFile : Nat := 16777216

def splice (old : ByteArray) (offset : Nat) (b : ByteArray) : ByteArray :=
  if offset = old.size then old ++ b
  else
    old.extract 0 offset ++ ⟨Array.replicate (offset - old.size) 0⟩ ++ b ++
      old.extract (offset + b.size) old.size

def sizeSignal : Nat := 25

def pipeSignal : Nat := 13

def refuse (w : World) (pid sig : Nat) (e : IoError) : Except IoError Nat × World :=
  (.error e, (w.signal pid sig).2)

/-- Writes to a number of a process, unless it has to wait, and tells how many bytes are left. -/
def write? (w : World) (pid n : Nat) (b : ByteArray) : Option (Except IoError Nat × World) :=
  match (w.opening pid n).bind fun id => (w.opening? id).map fun o => (id, o) with
  | none => some (.error Errno.badDescriptor, w)
  | some (id, o) =>
    if !o.writes then some (.error Errno.badDescriptor, w)
    else if b.isEmpty then some (.ok 0, w)
    else
      match o.channel with
      | .stream s =>
        if w.full && s = .output then some (.error Errno.noSpace, w)
        else some (.ok 0, w.print s b.toList)
      | .directory _ => some (.error Errno.badDescriptor, w)
      | .device .full => some (.error Errno.noSpace, w)
      | .device _ => some (.ok 0, w)
      | .file p offset appends =>
        match w.files.node? p with
        | some (.file mode content) =>
          let old := (Node.file mode content).bytes
          let offset := if appends then old.size else offset
          let room : Nat := ((w.ceiling pid .fileSize).soft?.map (· - offset)).getD b.size
          if room = 0 then some (w.refuse pid sizeSignal Errno.tooLarge)
          else if largestFile < offset + b.size then none
          else
            let piece := b.extract 0 room
            let w := w.setChannel id (.file p (offset + piece.size) appends)
            some (.ok (b.size - piece.size),
              w.put p (.file mode (.bytes (splice old offset piece))))
        | _ => some (.ok 0, w)
      | .pipe pipe =>
        if !w.hasReader pipe then some (w.refuse pid pipeSignal Errno.noReader)
        else
          match w.pipe? pipe with
          | none => some (.ok 0, w)
          | some q =>
            let (q, left) := q.push b
            if left = b.size then none else some (.ok left, w.setPipe pipe q)

end World

end SupervisedShell
