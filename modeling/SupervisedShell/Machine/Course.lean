import SupervisedShell.Machine.World

set_option autoImplicit false

namespace SupervisedShell

inductive Course where
  | over (status : WaitStatus)
  | call (f : World → Course × World)
  | await (f : World → Option (Course × World))
  | work (amount : Nat) (next : Unit → Course)
  | rest (d : Duration) (next : Unit → Course)
  | fork (child parent : Nat → Course)

def Routine (α : Type) : Type := (α → Course) → Course

namespace Routine

@[always_inline]
instance : Monad Routine where
  pure a := fun k => k a
  bind m f := fun k => m fun a => f a k

instance : LawfulMonad Routine :=
  .mk' Routine (fun _ => rfl) (fun _ _ => rfl) (fun _ _ _ => rfl)

def call {α : Type} (f : World → α × World) : Routine α := fun k =>
  .call fun w =>
    let (a, w) := f w
    (k a, w)

def seen {α : Type} (f : World → α) : Routine α := call fun w => (f w, w)

def change (f : World → World) : Routine Unit := call fun w => ((), f w)

def await {α : Type} (f : World → Option (α × World)) : Routine α := fun k =>
  .await fun w => (f w).map fun (a, w) => (k a, w)

def work (amount : Nat) : Routine Unit := Course.work amount

def rest (d : Duration) : Routine Unit := Course.rest d

def fork (child : Nat → Course) : Routine Nat := Course.fork child

def instead {α : Type} (m : Routine WaitStatus) : Routine α := fun _ => m .over

def forever {α : Type} : Routine α := await fun _ => none

end Routine

/-- A process that has a course to follow, from a moment on. -/
structure Thread where
  pid : Nat
  ready : Instant
  course : Course
  waits? : Option Nat

/-- The machine with all its processes at work. -/
structure Scene where
  world : World
  threads : List Thread

namespace Scene

def birth : Duration := .ofMicros 300

/-- The time that the call itself takes, so that of two processes the one that was called for
first is ahead. -/
def splitting : Duration := .ofMicros 100

/-- Work takes the longer the more was done before: what goes on for ever comes to no end anyway. -/
def effort (labour amount : Nat) : Duration := ⟨amount * nanosPerMicro <<< (labour >>> 15)⟩

def mostCalls : Nat := 100000

/-- Lets a process go on until it works, rests, waits, is stopped or is over. Threads come with the
newest first. -/
def proceed (pid : Nat) : (calls : Nat) → Course → List Thread → World → Scene
  | 0, c, ts, w => ⟨w, ⟨pid, w.clock, c, none⟩ :: ts⟩
  | n + 1, c, ts, w =>
    if w.isOver pid then ⟨w, ts⟩
    else if w.isStopped pid then ⟨w, ⟨pid, w.clock, c, none⟩ :: ts⟩
    else
      match c with
      | .over status => ⟨w.finish pid status, ts⟩
      | .call f =>
        let (c, w) := f w
        proceed pid n c ts w
      | .await f =>
        match f w with
        | some (c, w) => proceed pid n c ts w
        | none => ⟨w, ⟨pid, w.clock, .await f, some w.changes⟩ :: ts⟩
      | .work amount next =>
        let ready := w.clock.after (effort w.labour amount)
        ⟨{ w with labour := w.labour + amount },
          ⟨pid, ready, .call fun w => (next (), w), none⟩ :: ts⟩
      | .rest d next => ⟨w, ⟨pid, w.clock.after d, .call fun w => (next (), w), none⟩ :: ts⟩
      | .fork child parent =>
        let (number, w) := w.fork pid
        let t : Thread := ⟨number, w.clock.after birth, .call fun w => (child number, w), none⟩
        ⟨w, ⟨pid, w.clock.after splitting, parent number, none⟩ :: t :: ts⟩

def moment? (w : World) (t : Thread) : Option Instant :=
  if w.isStopped t.pid then none
  else
    match t.waits? with
    | none => some ⟨max t.ready.nanos w.clock.nanos⟩
    | some changes => if changes = w.changes then none else some w.clock

/-- The thread that goes on first, with the moment and the threads before and behind it. Of several
the first one is taken. -/
structure Choice where
  before : List Thread
  thread : Thread
  moment : Instant
  behind : List Thread

def first? (w : World) : List Thread → Option Choice
  | [] => none
  | t :: ts =>
    let later? := (first? w ts).map fun c => { c with before := t :: c.before }
    match moment? w t, later? with
    | none, c? => c?
    | some m, none => some ⟨[], t, m, ts⟩
    | some m, some c => if m.nanos ≤ c.moment.nanos then some ⟨[], t, m, ts⟩ else some c

def step? (limit : Instant) (s : Scene) : Option Scene :=
  match first? s.world s.threads with
  | none => none
  | some c =>
    if limit.nanos < c.moment.nanos then none
    else
      let s := proceed c.thread.pid mostCalls c.thread.course [] { s.world with clock := c.moment }
      some { s with threads := c.before ++ c.behind ++ s.threads.reverse }

def run (limit : Instant) (isDone : World → Bool) : (steps : Nat) → Scene → Scene
  | 0, s => s
  | n + 1, s =>
    if isDone s.world then s
    else
      match s.step? limit with
      | some s => run limit isDone n s
      | none => s

def mostSteps : Nat := 1000000000000

def advance (limit : Instant) (s : Scene) : Scene :=
  let s := s.run limit (fun _ => false) mostSteps
  { s with world := { s.world with clock := ⟨max s.world.clock.nanos limit.nanos⟩ } }

end Scene

end SupervisedShell
