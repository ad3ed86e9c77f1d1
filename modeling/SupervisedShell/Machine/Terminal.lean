import SupervisedShell.LogFilter
import SupervisedShell.Machine.Basic

set_option autoImplicit false

namespace SupervisedShell

structure Terminal where
  machine : Machine
  held : Bytes
  filter : Log.Filter

namespace Terminal

def start (m : Machine) (filter : Log.Filter) : Terminal := ⟨m, [], filter⟩

def machineFocus : Focus Terminal Machine :=
  ⟨machine, fun t m => { t with machine := m }, fun _ _ => rfl⟩

def deliver (bytes : Bytes) (t : Terminal) : Terminal :=
  { t with machine := t.machine.print .output bytes }

def splitLines (bytes : Bytes) : Bytes × Bytes :=
  let tail := (bytes.reverse.takeWhile (· ≠ 0x0A)).reverse
  (bytes.take (bytes.length - tail.length), tail)

def write (bytes : Bytes) (t : Terminal) : Except IoError Nat × Terminal :=
  let (lines, tail) := splitLines (t.held ++ bytes)
  if lines.isEmpty then (.ok bytes.length, { t with held := tail })
  else if t.machine.full then (.error Errno.noSpace, t)
  else (.ok bytes.length, { t with held := tail }.deliver lines)

def flush (t : Terminal) : Except IoError Unit × Terminal :=
  if t.held.isEmpty then (.ok (), t)
  else if t.machine.full then (.error Errno.noSpace, t)
  else (.ok (), { t with held := [] }.deliver t.held)

def complain (line : String) (t : Terminal) : Terminal :=
  { t with machine := t.machine.print .errors (Utf8.encode (line ++ "\n")) }

def logLine (r : Log.Record) : String := s!"{r.level.name} {r.source.target}: {r.text}"

def log (r : Log.Record) (t : Terminal) : Terminal :=
  if t.filter.shows r then t.complain (logLine r) else t

theorem clock_log (r : Log.Record) (t : Terminal) : (t.log r).machine.clock = t.machine.clock := by
  unfold log
  split <;> rfl

theorem timeless (moment : Instant) (r : Log.Record) (t : Terminal) :
    Machine.system.readings moment (t.log r).machine ≤
      Machine.system.readings moment t.machine := by
  simp only [Machine.system, clock_log, Nat.le_refl]

def inlet : Inlet Terminal := ⟨fun most => machineFocus.step (Machine.read most)⟩

def host : Host Terminal where
  toOutlet := ⟨write, flush⟩
  toSystem := Machine.system.within machineFocus log timeless

end Terminal

end SupervisedShell
