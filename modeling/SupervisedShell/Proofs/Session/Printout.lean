import SupervisedShell.Machine.Rig
import SupervisedShell.Proofs.Session.Along
import SupervisedShell.Proofs.Supervision.Frame

set_option autoImplicit false

namespace SupervisedShell

variable {σ α : Type}

/-- The printout of a host. While its state is sound, every offer is taken at least in part. -/
structure Printout (host : Host σ) where
  sound : σ → Prop
  printed : σ → Bytes
  write : ∀ (b : UInt8) (rest : Bytes) (s : σ), sound s →
    ∃ n s', host.write (b :: rest) s = (.ok (n + 1), s') ∧
    sound s' ∧ printed s' = printed s ++ (b :: rest).take (n + 1)
  flush : ∀ s, sound s → ∃ s', host.flush s = (.ok (), s') ∧ sound s' ∧
    printed s' = printed s
  log : ∀ (r : Log.Record) (s : σ), sound s →
    sound (host.log r s) ∧ printed (host.log r s) = printed s

namespace Printout

variable {host : Host σ} (p : Printout host)

theorem writeAll (bytes : Bytes) {s : σ} (sound : p.sound s) :
    ∃ s', host.toOutlet.writeAll bytes s = (.ok (), s') ∧ p.sound s' ∧
      p.printed s' = p.printed s ++ bytes := by
  generalize size : bytes.length = n
  induction n using Nat.strongRecOn generalizing bytes s with
  | ind n ih =>
    cases bytes with
    | nil => exact ⟨s, by rw [Outlet.writeAll], sound, by simp⟩
    | cons b rest =>
      obtain ⟨taken, s₁, written, sound₁, printed₁⟩ := p.write b rest s sound
      have shorter : (rest.drop taken).length < n := by
        rw [← size, List.length_drop, List.length_cons]
        omega
      obtain ⟨s', later, sound', printed'⟩ := ih _ shorter (rest.drop taken) sound₁ rfl
      refine ⟨s', ?_, sound', ?_⟩
      · rw [Outlet.writeAll, written]
        exact later
      · rw [printed', printed₁, List.take_succ_cons, List.append_assoc, List.cons_append,
          List.take_append_drop]

theorem printAll (pieces : List String) {s : σ} (sound : p.sound s) :
    ∃ s', host.toOutlet.printAll pieces s = (.ok (), s') ∧ p.sound s' ∧
      p.printed s' = p.printed s ++ Utf8.encode (String.join pieces) := by
  induction pieces generalizing s with
  | nil => exact ⟨s, rfl, sound, by simp [Utf8.encode]⟩
  | cons piece rest ih =>
    obtain ⟨s₁, written, sound₁, printed₁⟩ := p.writeAll (Utf8.encode piece) sound
    obtain ⟨s', later, sound', printed'⟩ := ih sound₁
    refine ⟨s', ?_, sound', ?_⟩
    · rw [Outlet.printAll, written]
      exact later
    · rw [printed', printed₁, String.join_cons, Utf8.encode_append, List.append_assoc]

theorem printLine (l : Line) {s : σ} (sound : p.sound s) :
    ∃ s', host.toOutlet.printLine l s = (.ok (), s') ∧ p.sound s' ∧
      p.printed s' = p.printed s ++ Utf8.encode (l.text ++ "\n") := by
  rw [← l.join_pieces]
  exact p.printAll l.pieces sound

def Extends (s s' : σ) : Prop := p.sound s' ∧ p.printed s <+: p.printed s'

/-- What is on the printout of the second state beyond that of the first. -/
def gained (s s' : σ) : Bytes := (p.printed s').drop (p.printed s).length

theorem Extends.printed_eq {p : Printout host} {s s' : σ} (h : p.Extends s s') :
    p.printed s' = p.printed s ++ p.gained s s' := (List.prefix_iff_eq_append.mp h.2).symm

def Tame (x : Action σ α) : Prop := ∀ env s, p.sound s → p.Extends s (x env s).2.2

variable {p}

theorem Extends.trans {s s' s'' : σ} (first : p.Extends s s') (second : p.Extends s' s'') :
    p.Extends s s'' := ⟨second.1, first.2.trans second.2⟩

def Respects (p : Printout host) (f : Factory σ) : Prop :=
  ∀ env name args command, f env name args = some command → p.Tame command

def Quiet (p : Printout host) : Prop :=
  ∀ b, host.toSystem.Keeps fun s => p.sound s ∧ p.printed s = b

theorem carries (p : Printout host) : host.Carries fun s s' => p.sound s → p.Extends s s' where
  refl _ sound := ⟨sound, List.prefix_refl _⟩
  trans first second sound := (first sound).trans (second (first sound).1)
  write b rest s sound := by
    obtain ⟨n, s', written, sound', printed⟩ := p.write b rest s sound
    rw [written]
    exact ⟨sound', _, printed.symm⟩
  flush s sound := by
    obtain ⟨s', flushed, sound', printed⟩ := p.flush s sound
    rw [flushed]
    exact ⟨sound', [], (List.append_nil _).trans printed.symm⟩
  log r s sound := by
    obtain ⟨sound', printed⟩ := p.log r s sound
    exact ⟨sound', [], (List.append_nil _).trans printed.symm⟩

theorem executeLine_tame {sh : Interpreter σ} {p : Printout sh.host}
    (respects : ∀ f ∈ sh.factories, p.Respects f) (line : String) :
    p.Tame (sh.executeLine line) :=
  p.carries.executeLine respects line

theorem respects_plugin (q : Plugin) : p.Respects (q.factory host) := p.carries.plugins q

theorem respects_standard (quiet : p.Quiet) : ∀ f ∈ standardFactories host, p.Respects f := by
  refine p.carries.standard fun env name args s s₁ flushed sound => ?_
  obtain ⟨s', again, sound₁, printed₁⟩ := p.flush s sound
  obtain rfl : s₁ = s' := by
    rw [flushed] at again
    exact congrArg Prod.snd again
  obtain ⟨sound', printed⟩ :=
    External.start_keeps (quiet (p.printed s)) env name args ⟨sound₁, printed₁⟩
  exact ⟨sound', [], (List.append_nil _).trans printed.symm⟩

end Printout

/-- A rig with no refusals left prints all that it is given. -/
def Rig.printout : Printout Rig.host where
  sound r := r.writer.refusals = 0 ∧ r.writer.flushRefusals = 0
  printed r := r.writer.capture.bytes
  write b rest r sound := by
    let w : Faulty := { r.writer with capture := ⟨r.writer.capture.bytes ++ b :: rest⟩ }
    have written : Faulty.write (b :: rest) r.writer = (.ok (rest.length + 1), w) := by
      simp [Faulty.write, sound.1, Capture.write, w]
    refine ⟨rest.length, { r with writer := w }, ?_, sound, ?_⟩
    · simp [host, writerFocus, Focus.step, written]
    · simp [w]
  flush r sound := by
    have flushed : Faulty.flush r.writer = (.ok (), r.writer) := by simp [Faulty.flush, sound.2]
    exact ⟨r, by simp [host, writerFocus, Focus.step, flushed], sound, rfl⟩
  log record r sound := by
    have same : (r.log record).writer = r.writer := r.writer_log record
    exact ⟨by rwa [← same] at sound, congrArg (·.capture.bytes) same⟩

theorem Rig.quiet : Rig.printout.Quiet := fun _ =>
  { facts := fun _ _ h => h, spawn := fun _ _ h => h, poll := fun _ _ h => h
    kill := fun _ _ h => h, reap := fun _ _ h => h, now := fun _ h => h, sleep := fun _ _ h => h
    log := fun record r h => by
      have told := Rig.printout.log record r h.1
      exact ⟨told.1, told.2.trans h.2⟩ }

end SupervisedShell
