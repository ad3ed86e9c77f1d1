import SupervisedShell.Capture
import SupervisedShell.Machine.Basic

set_option autoImplicit false

namespace SupervisedShell

structure Rig where
  machine : Machine
  writer : Faulty
  records : List Log.Record

namespace Rig

def start (m : Machine) (w : Faulty) : Rig := ⟨m, w, []⟩

def machineFocus : Focus Rig Machine :=
  ⟨machine, fun r m => { r with machine := m }, fun _ _ => rfl⟩

def writerFocus : Focus Rig Faulty :=
  ⟨writer, fun r w => { r with writer := w }, fun _ _ => rfl⟩

def log (record : Log.Record) (r : Rig) : Rig :=
  if record.level = .trace then r else { r with records := record :: r.records }

theorem machine_log (record : Log.Record) (r : Rig) : (r.log record).machine = r.machine := by
  unfold log
  split <;> rfl

theorem writer_log (record : Log.Record) (r : Rig) : (r.log record).writer = r.writer := by
  unfold log
  split <;> rfl

theorem timeless (moment : Instant) (record : Log.Record) (r : Rig) :
    Machine.system.readings moment (r.log record).machine ≤
      Machine.system.readings moment r.machine :=
  Nat.le_of_eq (by rw [machine_log])

def host : Host Rig where
  toOutlet :=
    ⟨fun bytes => writerFocus.step (Faulty.write bytes), writerFocus.step Faulty.flush⟩
  toSystem := Machine.system.within machineFocus log timeless

end Rig

end SupervisedShell
