import SupervisedShell.Machine.Program
import SupervisedShell.System.Focus
/-!
A machine to run the shell on. The shell is one of its processes, and its children are others. Time
passes only where the shell sleeps, waits or looks after a child; what the others do meanwhile
happens then. They may stop the shell like any other process.
-/

set_option autoImplicit false

namespace SupervisedShell

structure Machine where
  scene : Scene
  directory : Place
  searchPath? : Option Bytes
  environment : List (String × String)
  manuals : List Manual

namespace Machine

def shellPid : Nat := 999

/-- The shell in the table of processes. It may not want to know of the ends of its children. -/
def shell (forgets : Bool) : Process :=
  { pid := shellPid, parent := World.firstPid
    descriptors := [⟨0, 0, false⟩, ⟨1, 1, false⟩, ⟨2, 2, false⟩]
    ceilings := .standard, ignored := if forgets then [World.childSignal] else [], caught := []
    pending := [], stopped := false, ending? := none }

def ofFiles (files : Files) (searchPath? : Option Bytes) (forgets : Bool) : Machine :=
  let world : World :=
    { files := files, clock := ⟨Files.setUp.nanos + nanosPerSecond⟩,
      processes := [shell forgets]
      openings := [(0, ⟨.device .null, true, false⟩), (1, ⟨.stream .output, false, true⟩),
        (2, ⟨.stream .errors, false, true⟩)]
      pipes := [], nextPid := shellPid + 1, nextId := 3, full := false, output := [], errors := []
      labour := 0, changes := 0 }
  { scene := ⟨world, []⟩, directory := Files.session, searchPath? := searchPath?,
    environment := []
    manuals := [] }

def withManuals (manuals : List Manual) (m : Machine) : Machine := { m with manuals := manuals }

def world (m : Machine) : World := m.scene.world

def setWorld (m : Machine) (w : World) : Machine := { m with scene := { m.scene with world := w } }

def clock (m : Machine) : Instant := m.world.clock

def output (m : Machine) : Bytes := m.world.output.reverse.flatten

def errors (m : Machine) : Bytes := m.world.errors.reverse.flatten

def full (m : Machine) : Bool := m.world.full

def withFull (full : Bool) (m : Machine) : Machine := m.setWorld { m.world with full := full }

def inputPlace : Place := [[]]

def withInput (input : Bytes) (m : Machine) : Machine :=
  let files := m.world.files.put m.clock inputPlace (Node.ofBytes 0o644 input)
  m.setWorld ({ m.world with files := files }.setChannel 0 (.file inputPlace 0 false))

def inputSize (m : Machine) : Nat := (m.world.files.node? inputPlace).elim 0 fun n => n.bytes.size

def read (most : Nat) (m : Machine) : Bytes × Machine :=
  match m.world.read? shellPid 0 (.upTo most) with
  | some (.bytes b, w) => (b, m.setWorld w)
  | _ => ([], m)

def print (s : Stream) (b : Bytes) (m : Machine) : Machine := m.setWorld (m.world.print s b)

def never : Instant := ⟨1000000000000000000000⟩

def runUntil (isDone : World → Bool) (m : Machine) : Machine :=
  let s := m.scene.run never isDone Scene.mostSteps
  let clock : Instant := ⟨max m.clock.nanos s.world.clock.nanos⟩
  { m with scene := { s with world := { s.world with clock := clock } } }

def resume (m : Machine) : Machine := m.runUntil fun w => !w.isStopped shellPid

def sleep (d : Duration) (m : Machine) : Machine :=
  resume { m with scene := m.scene.advance (m.clock.after d) }

def childOf (m : Machine) (pid : Nat) (argv : List String) : Task :=
  let path := m.searchPath?.toList.map fun p => ("PATH", Octets.ofBytes p)
  { pid := pid, parent := shellPid, argv := argv, environment := path ++ m.environment
    directory := m.directory, umask := 0o022, manuals := m.manuals }

def start (m : Machine) (image : Image) : Nat × Machine :=
  let (pid, w) := m.world.fork shellPid
  let course (w : World) : Course × World :=
    (Program.run Program.mostChanges image.tool (m.childOf pid image.argv) .over, w)
  let t : Thread := ⟨pid, w.clock.after Program.startUp, .call course, none⟩
  (pid, { m with scene := ⟨w, m.scene.threads ++ [t]⟩ })

def longestArgument : Nat := 131071

def spawn (l : Launch) (m : Machine) : Except IoError Nat × Machine :=
  let argv := (l.name :: l.args).map Octets.ofText
  match Image.find m.world.files m.directory m.searchPath? l.program argv with
  | .error e => (.error e, m)
  | .ok found =>
    if argv.any (longestArgument < ·.length) then (.error Errno.tooBig, m)
    else
      let (pid, m) := m.start found.image
      (.ok pid, m)

def collect (pid : Nat) (m : Machine) : Machine :=
  m.setWorld { m.world with processes := m.world.processes.filter (·.pid ≠ pid) }

def look (pid : Nat) (m : Machine) : Except IoError (Option WaitStatus) × Machine :=
  match m.world.process? pid with
  | none => (.error Errno.noChild, m)
  | some p =>
    match p.ending? with
    | none => (.ok none, m)
    | some status => (.ok (some status), m.collect pid)

def tick : Duration := .ofMicros 10

def poll (pid : Nat) (m : Machine) : Except IoError (Option WaitStatus) × Machine :=
  let (seen, m) := m.look pid
  (seen, m.sleep tick)

def kill (pid : Nat) (m : Machine) : Except IoError Unit × Machine :=
  let (r, w) := m.world.signal pid Signal.kill
  (r, m.setWorld w)

def reap (pid : Nat) (m : Machine) : Except IoError WaitStatus × Machine :=
  let m := m.runUntil (·.isOver pid)
  match (m.world.process? pid).bind (·.ending?) with
  | none => (.error Errno.noChild, m)
  | some status => (.ok status, m.collect pid)

def holds (m : Machine) (pid : Nat) : Bool := (m.world.process? pid).isSome

theorem clock_look (pid : Nat) (m : Machine) : (look pid m).2.clock = m.clock := by
  unfold look
  repeat' split
  all_goals rfl

theorem clock_advance (t : Instant) (s : Scene) : t.nanos ≤ (s.advance t).world.clock.nanos := by
  rw [Scene.advance]
  exact Nat.le_max_right _ _

theorem clock_runUntil (isDone : World → Bool) (m : Machine) :
    m.clock.nanos ≤ (m.runUntil isDone).clock.nanos := Nat.le_max_left _ _

theorem clock_resume (m : Machine) : m.clock.nanos ≤ m.resume.clock.nanos := m.clock_runUntil _

theorem clock_sleep (d : Duration) (m : Machine) :
    m.clock.nanos + d.nanos ≤ (sleep d m).clock.nanos := by
  have slept := clock_resume { m with scene := m.scene.advance (m.clock.after d) }
  exact Nat.le_trans (clock_advance (m.clock.after d) m.scene) slept

theorem clock_poll (pid : Nat) (m : Machine) : m.clock.nanos < (poll pid m).2.clock.nanos := by
  have later := clock_sleep tick (look pid m).2
  rw [clock_look] at later
  exact Nat.lt_of_lt_of_le (Nat.lt_add_of_pos_right (by decide)) later

/-- Less of the time up to a moment is left behind a look at a child and a sleep. -/
theorem left_lt (pid : Nat) (moment : Instant) (d : Duration) (m m' : Machine)
    (early : (poll pid m).2.clock.nanos < moment.nanos)
    (between : moment.nanos - m'.clock.nanos ≤
      moment.nanos - (poll pid m).2.clock.nanos) :
    moment.nanos - (sleep (d.longer ⟨1⟩) m').clock.nanos < moment.nanos - m.clock.nanos := by
  have looked := clock_poll pid m
  have slept := clock_sleep (d.longer ⟨1⟩) m'
  omega

def system : System Machine where
  facts path m := (m.world.files.facts m.directory path, m)
  spawn := spawn
  poll := poll
  kill := kill
  reap := reap
  now m := (m.clock, m)
  -- A sleep of no length lasts a nanosecond.
  sleep d := sleep (d.longer ⟨1⟩)
  log _ m := m
  readings moment m := moment.nanos - m.clock.nanos
  readings_log _ _ _ := Nat.le_refl _
  readings_lt := left_lt

end Machine

end SupervisedShell
