import SupervisedShell.Machine.Rig
import SupervisedShell.Machine.Terminal
import SupervisedShell.Proofs.Supervision.Pulse
/-!
What the machine promises to the shell: its clock never goes back, a wait on it comes to its end,
and a child that was killed can be waited for.
-/

set_option autoImplicit false

namespace SupervisedShell

namespace World

@[simp] theorem clock_stir (w : World) : w.stir.clock = w.clock := rfl

@[simp] theorem clock_update (w : World) (pid : Nat) (f : Process → Process) :
    (w.update pid f).clock = w.clock := rfl

@[simp] theorem clock_await (w : World) (pid signal : Nat) : (w.await pid signal).clock = w.clock :=
  rfl

@[simp] theorem clock_orphan (w : World) (pid : Nat) : (w.orphan pid).clock = w.clock := rfl

theorem release_frame (w : World) (id : Nat) :
    (w.release id).clock = w.clock ∧ (w.release id).processes = w.processes := by
  simp only [release]
  repeat' split
  all_goals exact ⟨rfl, rfl⟩

theorem foldl_release_frame (gone : List Descriptor) (w : World) :
    (gone.foldl (fun w d => w.release d.opening) w).clock = w.clock ∧
      (gone.foldl (fun w d => w.release d.opening) w).processes = w.processes := by
  induction gone generalizing w with
  | nil => exact ⟨rfl, rfl⟩
  | cons d gone ih =>
    obtain ⟨clock, processes⟩ := w.release_frame d.opening
    rw [List.foldl_cons, (ih _).1, (ih _).2, clock, processes]
    exact ⟨rfl, rfl⟩

@[simp] theorem clock_setDescriptors (w : World) (pid : Nat) (ds : List Descriptor) :
    (w.setDescriptors pid ds).clock = w.clock := (foldl_release_frame _ _).1

theorem processes_setDescriptors (w : World) (pid : Nat) (ds : List Descriptor) :
    (w.setDescriptors pid ds).processes =
      (w.update pid fun p => { p with descriptors := ds }).processes := (foldl_release_frame _ _).2

@[simp] theorem clock_finish (w : World) (pid : Nat) (status : WaitStatus) :
    (w.finish pid status).clock = w.clock := by
  simp only [finish]
  repeat' split
  all_goals simp

@[simp] theorem clock_signal (w : World) (pid sig : Nat) :
    (w.signal pid sig).2.clock = w.clock := by
  simp only [signal]
  repeat' split
  all_goals simp

theorem process?_update (w : World) (pid q : Nat) {f : Process → Process}
    (same : ∀ p, (f p).pid = p.pid) :
    (w.update pid f).process? q = (w.process? q).map fun p => if p.pid = pid then f p else p := by
  simp only [process?, update, List.find?_map]
  congr 2
  funext p
  simp only [Function.comp_apply]
  split <;> simp [same]

theorem process?_pid {w : World} {q : Nat} {p : Process} (known : w.process? q = some p) :
    p.pid = q := by
  simpa using List.find?_some known

/-- A process whose parent does not end stays in the table as it is. -/
theorem process?_orphan {w : World} {pid q : Nat} {r : Process} (known : w.process? q = some r)
    (own : r.parent ≠ pid) : (w.orphan pid).process? q = some r := by
  obtain ⟨here, before, behind, split, others⟩ := List.find?_eq_some_iff_append.mp known
  simp only [process?, orphan, split, List.filterMap_append, List.filterMap_cons, own, if_false]
  rw [List.find?_append, List.find?_eq_none.mpr, Option.none_or, List.find?_cons, here]
  intro p' kept
  obtain ⟨p, known, made⟩ := List.mem_filterMap.mp kept
  have other := others p known
  repeat' split at made
  all_goals cases made <;> simpa using other

/-- A parent that minds its children finds the status of one that has ended. -/
theorem process?_finish {w : World} {pid : Nat} {p parent : Process}
    (known : w.process? pid = some p)
    (alive : p.ending? = none) (mother : w.process? p.parent = some parent)
    (minds : World.childSignal ∉ parent.ignored) (own : p.parent ≠ pid)
    (free : parent.parent ≠ pid) (status : WaitStatus) :
    ((w.finish pid status).process? pid).bind (·.ending?) = some status := by
  let left := (w.setDescriptors pid []).orphan pid
  have closed (q : Nat) : (w.setDescriptors pid []).process? q =
      (w.process? q).map fun p => if p.pid = pid then { p with descriptors := [] } else p := by
    rw [process?, processes_setDescriptors]
    exact process?_update w pid q fun _ => rfl
  have mother_left : left.process? p.parent = some parent := by
    refine process?_orphan ?_ free
    rw [closed, mother]
    simp [process?_pid mother, own]
  have child_left : left.process? pid = some { p with descriptors := [] } := by
    refine process?_orphan ?_ own
    rw [closed, known]
    simp [process?_pid known]
  let ended := left.update pid fun q => { q with ending? := some status, stopped := false }
  have child_ended : ended.process? pid =
      some { p with descriptors := [], ending? := some status, stopped := false } := by
    rw [process?_update, child_left]
    · simp [process?_pid known]
    · simp
  have finished : w.finish pid status =
      if parent.caught.contains childSignal then ended.stir.await p.parent childSignal
        else ended.stir := by
    simp only [left] at mother_left
    simp [finish, known, alive, mother_left, minds, ended, left]
  rw [finished]
  split
  · have awaited : (ended.stir.await p.parent childSignal).process? pid =
        (ended.process? pid).map fun q =>
        if q.pid = p.parent then
          { q with pending := q.pending.filter (· ≠ childSignal) ++ [childSignal] }
        else q := process?_update ended.stir p.parent pid fun _ => rfl
    rw [awaited, child_ended]
    simp [process?_pid known, own.symm]
  · exact congrArg (·.bind (·.ending?)) child_ended

end World

namespace Machine

theorem clock_kill (pid : Nat) (m : Machine) : (kill pid m).2.clock = m.clock :=
  World.clock_signal m.world pid Signal.kill

theorem clock_spawn (l : Launch) (m : Machine) : (spawn l m).2.clock = m.clock := by
  simp only [spawn]
  repeat' split
  all_goals rfl

theorem clock_reap (pid : Nat) (m : Machine) : m.clock.nanos ≤ (reap pid m).2.clock.nanos := by
  have later := m.clock_runUntil (·.isOver pid)
  simp only [reap]
  split <;> exact later

def clockwork : Clockwork Machine where
  facts := system.facts
  spawn := spawn
  poll := poll
  kill := kill
  reap := reap
  now := system.now
  sleep := sleep
  log := system.log
  time := clock
  facts_time _ _ := Nat.le_refl _
  spawn_time l m := Nat.le_of_eq (congrArg Instant.nanos (clock_spawn l m)).symm
  poll_time pid m := Nat.le_of_lt (clock_poll pid m)
  kill_time pid m := Nat.le_of_eq (congrArg Instant.nanos (clock_kill pid m)).symm
  reap_time := clock_reap
  now_time _ := ⟨Nat.le_refl _, Nat.le_refl _⟩
  sleep_time := clock_sleep
  log_time _ _ := Nat.le_refl _

theorem clockwork_system : clockwork.system = system := rfl

end Machine

namespace Clockwork

variable {σ τ : Type}

def within (c : Clockwork σ) (f : Focus τ σ) (note : Log.Record → τ → τ)
    (noted : ∀ r t, (c.time (f.get t)).nanos ≤ (c.time (f.get (note r t))).nanos) :
    Clockwork τ where
  facts path := f.step (c.facts path)
  spawn l := f.step (c.spawn l)
  poll pid := f.step (c.poll pid)
  kill pid := f.step (c.kill pid)
  reap pid := f.step (c.reap pid)
  now := f.step c.now
  sleep d t := f.set t (c.sleep d (f.get t))
  log := note
  time t := c.time (f.get t)
  facts_time path t := by simp only [Focus.step, f.get_set, c.facts_time]
  spawn_time l t := by simp only [Focus.step, f.get_set, c.spawn_time]
  poll_time pid t := by simp only [Focus.step, f.get_set, c.poll_time]
  kill_time pid t := by simp only [Focus.step, f.get_set, c.kill_time]
  reap_time pid t := by simp only [Focus.step, f.get_set, c.reap_time]
  now_time t := by simpa only [Focus.step, f.get_set] using c.now_time (f.get t)
  sleep_time d t := by simp only [f.get_set, c.sleep_time]
  log_time := noted

end Clockwork

def Rig.clockwork : Clockwork Rig :=
  Machine.clockwork.within machineFocus log fun r t => by
    simp only [machineFocus, machine_log, Nat.le_refl]

theorem Rig.clockwork_system : Rig.clockwork.system = Rig.host.toSystem := rfl

def Terminal.clockwork : Clockwork Terminal :=
  Machine.clockwork.within machineFocus log fun r t => by
    simp only [machineFocus, Machine.clockwork, clock_log, Nat.le_refl]

theorem Terminal.clockwork_system : Terminal.clockwork.system = Terminal.host.toSystem := rfl

/-- A child on the machine is looked after no more often than its limits allow. -/
theorem Terminal.wait_measured {limits : Limits} (regular : 0 < limits.pollInterval.nanos)
    (h : Handle) {t : Terminal} (begun : h.started.nanos ≤ t.machine.clock.nanos) :
    let calls := (h.wait host.toSystem.traced limits (.start t)).2.calls
    Forward h.started calls ∧ Measured limits h.started calls ∧
      (calls.filter (Call.polls h.pid)).length ≤
        limits.timeout.nanos ⌈/⌉ limits.pollInterval.nanos + 1 :=
  ⟨clockwork.wait_forward limits h begun, (clockwork.wait_measured regular h begun).2⟩

theorem Scene.run_of_done {isDone : World → Bool} {s : Scene} (done : isDone s.world = true)
    (limit : Instant) (steps : Nat) : s.run limit isDone steps = s := by
  cases steps with
  | zero => rfl
  | succ n => rw [run, if_pos done]

/-- A child that a machine was told to kill can be waited for, and has ended by the signal. -/
theorem Machine.reap_kill {m : Machine} {pid : Nat} {p shell : Process}
    (child : m.world.process? pid = some p) (alive : p.ending? = none) (own : p.parent = shellPid)
    (known : m.world.process? shellPid = some shell) (minds : World.childSignal ∉ shell.ignored)
    (apart : shellPid ≠ pid) (free : shell.parent ≠ pid) :
    (reap pid (kill pid m).2).1 = .ok (.signaled Signal.kill false) := by
  have killed : (kill pid m).2.world = m.world.finish pid (.signaled Signal.kill false) := by
    change (m.world.signal pid Signal.kill).2 = _
    simp [World.signal, child, alive, Signal.kill]
  have ended := World.process?_finish child alive (by rwa [own]) minds (by rwa [own]) free
    (.signaled Signal.kill false)
  rw [← killed] at ended
  have gone : (kill pid m).2.world.isOver pid = true := by
    obtain ⟨q, known, status⟩ := Option.bind_eq_some_iff.mp ended
    simp [World.isOver, known, status]
  have still : ((kill pid m).2.runUntil (·.isOver pid)).world.processes =
      (kill pid m).2.world.processes := by
    simp only [runUntil, world] at gone ⊢
    rw [Scene.run_of_done gone]
  have ended : (((kill pid m).2.runUntil (·.isOver pid)).world.process? pid).bind (·.ending?) =
      some (.signaled Signal.kill false) := by
    rw [World.process?, still]
    exact ended
  simp only [reap, ended]

end SupervisedShell
