import Mathlib.Algebra.Order.Floor.Div
import SupervisedShell.Proofs.Options.Settings
import SupervisedShell.Proofs.Supervision.Cadence
/-!
Why a wait ends, and how soon. A clock that never goes back and moves on over each sleep by as much
as was asked, or more, reaches the deadline within a number of polls that the limits give; so the
wait needs no bound of its own, and no sleep on the way is empty or too long. The deadline itself
fits the seconds of the clock.
-/

set_option autoImplicit false

namespace SupervisedShell

variable {σ α : Type}

theorem deadline_fits {limits : Limits} {started : Instant} {ms : Nat} (word : ms < 2 ^ 64)
    (timeout : limits.timeout = .ofMillis ms) (low : started.secs + 18446744073709552 < 2 ^ 63) :
    started.after? limits.timeout = some (limits.deadline started) := by
  rw [Instant.after?_eq]
  refine if_pos ?_
  rw [timeout]
  simp only [Instant.secs, Instant.after, Duration.ofMillis, nanosPerSecond, nanosPerMilli]
    at low ⊢
  omega

def Call.least (t : Instant) : Call → Instant
  | now u => u
  | sleep d => t.after d
  | _ => t

theorem Call.least_mono {t u : Instant} (le : t.nanos ≤ u.nanos) (c : Call) :
    (c.least t).nanos ≤ (c.least u).nanos := by
  cases c with
  | now v => exact Nat.le_refl _
  | sleep d => exact Nat.add_le_add_right le _
  | _ => exact le

/-- From `t` on the clock never goes back, and over each sleep it moves on by as much as was
asked at least. -/
def Forward : Instant → List Call → Prop
  | _, [] => True
  | t, c :: calls => (∀ u, c = .now u → t.nanos ≤ u.nanos) ∧ Forward (c.least t) calls

theorem Forward.mono {t u : Instant} {calls : List Call} (le : t.nanos ≤ u.nanos)
    (h : Forward u calls) :
    Forward t calls := by
  induction calls generalizing t u with
  | nil => trivial
  | cons c calls ih =>
    exact ⟨fun v same => Nat.le_trans le (h.1 v same), ih (c.least_mono le) h.2⟩

theorem forward_append_singleton {t : Instant} {calls : List Call} {c : Call} :
    Forward t (calls ++ [c]) ↔
    Forward t calls ∧ ∀ u, c = .now u → (calls.foldl Call.least t).nanos ≤ u.nanos := by
  induction calls generalizing t with
  | nil => simp [Forward]
  | cons d calls ih => simp [Forward, ih, and_assoc]

/-- Calls to a system with a true time that they do not turn back. A reading lies between its call
and its answer, and a sleep lasts as long as asked, or longer. How many readings come before a
moment is not said. -/
structure Clockwork (σ : Type) where
  facts : Bytes → σ → Option FileFacts × σ
  spawn : Launch → σ → Except IoError Nat × σ
  poll : Nat → σ → Except IoError (Option WaitStatus) × σ
  kill : Nat → σ → Except IoError Unit × σ
  reap : Nat → σ → Except IoError WaitStatus × σ
  now : σ → Instant × σ
  sleep : Duration → σ → σ
  log : Log.Record → σ → σ
  time : σ → Instant
  facts_time : ∀ path s, (time s).nanos ≤ (time (facts path s).2).nanos
  spawn_time : ∀ l s, (time s).nanos ≤ (time (spawn l s).2).nanos
  poll_time : ∀ pid s, (time s).nanos ≤ (time (poll pid s).2).nanos
  kill_time : ∀ pid s, (time s).nanos ≤ (time (kill pid s).2).nanos
  reap_time : ∀ pid s, (time s).nanos ≤ (time (reap pid s).2).nanos
  now_time : ∀ s, (time s).nanos ≤ (now s).1.nanos ∧
    (now s).1.nanos ≤ (time (now s).2).nanos
  sleep_time : ∀ d s, (time s).nanos + d.nanos ≤ (time (sleep d s)).nanos
  log_time : ∀ r s, (time s).nanos ≤ (time (log r s)).nanos

namespace Clockwork

/-- The bound on readings that a system needs is what is left of the time. A sleep of no length,
which a wait does not ask for, would use none of it up, and lasts a nanosecond here. -/
def system (c : Clockwork σ) : System σ where
  facts := c.facts
  spawn := c.spawn
  poll := c.poll
  kill := c.kill
  reap := c.reap
  now := c.now
  sleep d := c.sleep (d.longer ⟨1⟩)
  log := c.log
  readings moment s := moment.nanos - (c.time s).nanos
  readings_log moment r s := Nat.sub_le_sub_left (c.log_time r s) moment.nanos
  readings_lt pid moment d s s' early between := by
    have polled := c.poll_time pid s
    have read := c.now_time (c.poll pid s).2
    have slept := c.sleep_time (d.longer ⟨1⟩) s'
    simp only [Duration.longer] at slept ⊢
    omega

/-- The calls so far go forward from `t` on, and none of them is in the future. -/
structure Told (c : Clockwork σ) (t : Instant) (w : Traced σ) : Prop where
  forward : Forward t w.calls
  past : (w.calls.foldl Call.least t).nanos ≤ (c.time w.world).nanos

variable {c : Clockwork σ} {t : Instant} {w : Traced σ}

theorem Told.ask (h : c.Told t w) (f : σ → α × σ) (call : α → Call)
    (reading : ∀ u, call (f w.world).1 = .now u → (c.time w.world).nanos ≤ u.nanos)
    (lasts : ((call (f w.world).1).least (c.time w.world)).nanos ≤ (c.time (f w.world).2).nanos) :
    c.Told t (w.ask f call).2 := by
  refine ⟨forward_append_singleton.mpr ⟨h.forward, ?_⟩, ?_⟩
  · intro u same
    exact Nat.le_trans h.past (reading u same)
  · simp only [Traced.ask, List.foldl_append, List.foldl_cons, List.foldl_nil]
    exact Nat.le_trans (Call.least_mono h.past _) lasts

theorem told_keeps (c : Clockwork σ) (t : Instant) : c.system.traced.Keeps (c.Told t) where
  facts path w h := h.ask _ _ (by simp) (c.facts_time path w.world)
  spawn l w h := h.ask _ _ (by simp) (c.spawn_time l w.world)
  poll pid w h := h.ask _ _ (by simp) (c.poll_time pid w.world)
  kill pid w h := h.ask _ _ (by simp) (c.kill_time pid w.world)
  reap pid w h := h.ask _ _ (by simp) (c.reap_time pid w.world)
  now w h := by
    have read := c.now_time w.world
    refine h.ask _ _ ?_ read.2
    intro u same
    cases same
    exact read.1
  sleep d w h := by
    have slept := c.sleep_time (d.longer ⟨1⟩) w.world
    have longer : d.nanos ≤ (d.longer ⟨1⟩).nanos := Nat.le_max_left _ _
    refine h.ask (fun s => ((), c.system.sleep d s)) (fun _ => .sleep d) (by simp) ?_
    exact Nat.le_trans (Nat.add_le_add_left longer _) slept
  log r w h := ⟨h.forward, Nat.le_trans h.past (c.log_time r w.world)⟩

theorem wait_forward (c : Clockwork σ) (limits : Limits) (h : Handle) {s : σ}
    (begun : h.started.nanos ≤ (c.time s).nanos) :
    Forward h.started (h.wait c.system.traced limits (.start s)).2.calls := by
  have start : c.Told h.started (.start s) := ⟨trivial, begun⟩
  exact (h.wait_keeps (c.told_keeps h.started) limits start).forward

end Clockwork

section
variable {limits : Limits} {started : Instant} {pid : Nat} {rounds : List Round} {rest : List Call}

/-- A pause takes the clock to the next beat, or further. -/
theorem Round.Early.next_beat {r : Round} {k : Nat} (early : r.Early limits started)
    (reached : (started.after (limits.beat k)).nanos ≤ r.reading.nanos) :
    (started.after (limits.beat (k + 1))).nanos ≤ (r.reading.after r.pause).nanos := by
  obtain ⟨before, pause⟩ := early
  have step := limits.beat_succ_le k
  have most := limits.beat_le (k + 1)
  rw [pause]
  simp only [Instant.after, Limits.pause, Limits.deadline, Instant.since, Duration.shorter]
    at before reached ⊢
  omega

/-- Round by round the clock keeps up with the beats, which are all before the deadline. -/
theorem beats_early (k : Nat) (early : ∀ r ∈ rounds, r.Early limits started)
    (forward : Forward (started.after (limits.beat k)) (rounds.flatMap (Round.calls pid) ++ rest)) :
    ∀ i < rounds.length, (limits.beat (k + i)).nanos < limits.timeout.nanos := by
  induction rounds generalizing k with
  | nil => simp
  | cons r rounds ih =>
    obtain ⟨first, early⟩ := List.forall_mem_cons.mp early
    obtain ⟨-, reading, -, later⟩ := forward
    have reached : (started.after (limits.beat k)).nanos ≤ r.reading.nanos :=
      reading r.reading rfl
    have next := ih (k + 1) early (later.mono (first.next_beat reached))
    intro i hi
    cases i with
    | zero =>
      have before := first.1
      simp only [Limits.deadline, Instant.after, Nat.add_zero] at before reached ⊢
      omega
    | succ i =>
      rw [List.length_cons] at hi
      rw [← Nat.add_assoc, Nat.add_right_comm]
      exact next i (by omega)

theorem rounds_le (regular : 0 < limits.pollInterval.nanos)
    (beats : ∀ i < rounds.length, (limits.beat i).nanos < limits.timeout.nanos) :
    rounds.length ≤ limits.timeout.nanos ⌈/⌉ limits.pollInterval.nanos := by
  by_contra more
  have last := beats (limits.timeout.nanos ⌈/⌉ limits.pollInterval.nanos) (by omega)
  have reached : limits.timeout.nanos ≤
      limits.pollInterval.nanos * (limits.timeout.nanos ⌈/⌉ limits.pollInterval.nanos) :=
    (ceilDiv_le_iff_le_mul regular).mp (Nat.le_refl _)
  rw [Nat.mul_comm] at reached
  simp only [Limits.beat] at last
  omega

/-- A sleep comes right behind a reading before the deadline; it is not empty, no longer than the
interval between polls, and over by the deadline. -/
def Measured (limits : Limits) (started : Instant) (calls : List Call) : Prop :=
  ∀ pre d post, calls = pre ++ .sleep d :: post → ∃ before t, pre = before ++ [.now t] ∧
    t.nanos < (limits.deadline started).nanos ∧ 0 < d.nanos ∧
      d.nanos ≤ limits.pollInterval.nanos ∧
    t.nanos + d.nanos ≤ (limits.deadline started).nanos

theorem Measured.of_awake (awake : ∀ d, .sleep d ∉ rest) : Measured limits started rest := by
  rintro pre d post rfl
  exact absurd (by simp) (awake d)

theorem Measured.behind {r : Round} (regular : 0 < limits.pollInterval.nanos)
    (early : r.Early limits started)
    (h : Measured limits started rest) : Measured limits started (r.calls pid ++ rest) := by
  intro pre d post split
  rcases pre with _ | ⟨_, _ | ⟨_, _ | ⟨_, pre⟩⟩⟩
  · simp [Round.calls] at split
  · simp [Round.calls] at split
  · simp only [Round.calls, List.cons_append, List.nil_append, List.cons.injEq, Call.sleep.injEq]
      at split
    obtain ⟨rfl, rfl, rfl, -⟩ := split
    obtain ⟨before, pause⟩ := early
    refine ⟨[.poll pid (.ok none)], r.reading, rfl, before, ?_⟩
    rw [pause]
    simp only [Limits.pause, Duration.shorter, Instant.since]
    omega
  · simp only [Round.calls, List.cons_append, List.nil_append, List.cons.injEq] at split
    obtain ⟨rfl, rfl, rfl, split⟩ := split
    obtain ⟨before, t, rfl, bounds⟩ := h pre d post split
    exact ⟨_ :: _ :: _ :: before, t, rfl, bounds⟩

theorem Measured.of_rounds (regular : 0 < limits.pollInterval.nanos)
    (early : ∀ r ∈ rounds, r.Early limits started) (awake : ∀ d, .sleep d ∉ rest) :
    Measured limits started (rounds.flatMap (Round.calls pid) ++ rest) := by
  induction rounds with
  | nil => exact .of_awake awake
  | cons r rounds ih =>
    obtain ⟨first, early⟩ := List.forall_mem_cons.mp early
    rw [List.flatMap_cons, List.append_assoc]
    exact (ih early).behind regular first

end

theorem polls_rounds (pid : Nat) (rounds : List Round) :
    ((rounds.flatMap (Round.calls pid)).filter (Call.polls pid)).length = rounds.length := by
  induction rounds with
  | nil => rfl
  | cons r rounds ih => simp [Round.calls, Call.polls, ih]

theorem polls_ending (pid : Nat) (e : Ending) :
    ((e.calls pid).filter (Call.polls pid)).length = 1 := by
  cases e <;> simp [Ending.calls, Call.polls]

/-- A wait of regular polls is measured, and it makes no more of them than there are beats. -/
theorem Clockwork.wait_measured (c : Clockwork σ) {limits : Limits}
    (regular : 0 < limits.pollInterval.nanos)
    (h : Handle) {s : σ} (begun : h.started.nanos ≤ (c.time s).nanos) :
    let (result, w) := h.wait c.system.traced limits (.start s)
    h.wait c.system limits s = (result, w.world) ∧ Measured limits h.started w.calls ∧
      (w.calls.filter (Call.polls h.pid)).length ≤
        limits.timeout.nanos ⌈/⌉ limits.pollInterval.nanos + 1 := by
  have forward := c.wait_forward limits h begun
  simp only [Handle.wait_eq_watch] at forward ⊢
  cases known : h.child.status? with
  | some status =>
    simp only [Handle.watch_of_known c.system limits known,
      Handle.watch_of_known c.system.traced limits known]
    exact ⟨rfl, .of_awake (by simp [Traced.start]), by simp [Traced.start, Call.polls]⟩
  | none =>
    obtain ⟨rounds, e, s', early, -, plain, traced⟩ :=
      Handle.watch_traced c.system limits known (.start s)
    have plain : h.watch c.system limits s = _ := plain
    simp only [plain, traced] at forward ⊢
    simp only [Traced.start, List.nil_append] at forward ⊢
    have awake (d : Duration) : .sleep d ∉ e.calls h.pid := by cases e <;> simp [Ending.calls]
    have beats := beats_early 0 early (by simpa [Instant.after] using forward)
    have few := rounds_le regular fun i hi => by simpa using beats i hi
    refine ⟨trivial, .of_rounds regular early awake, ?_⟩
    rw [List.filter_append, List.length_append, polls_rounds, polls_ending]
    omega

/-- On such a clock every wait ends after a number of polls that the limits give, and its sleeps are
measured by the deadline. Limits from options of 64 bits have a deadline that the clock can show. -/
theorem Handle.wait_ends_soon (c : Clockwork σ) {o : Options} {limits : Limits}
    (accepted : o.limits = .ok limits)
    (h : Handle) {s : σ} (begun : h.started.nanos ≤ (c.time s).nanos) :
    (o.timeoutMs < 2 ^ 64 → h.started.secs + 18446744073709552 < 2 ^ 63 →
        h.started.after? limits.timeout = some (limits.deadline h.started)) ∧
      let (result, w) := h.wait c.system.traced limits (.start s)
      h.wait c.system limits s = (result, w.world) ∧ Measured limits h.started w.calls ∧
        (w.calls.filter (Call.polls h.pid)).length ≤
          limits.timeout.nanos ⌈/⌉ limits.pollInterval.nanos + 1 := by
  obtain ⟨-, positive, given⟩ := Options.limits_eq_ok_iff.mp accepted
  have regular : 0 < limits.pollInterval.nanos := by
    rw [given]
    exact Nat.mul_pos positive (by decide)
  refine ⟨fun word low => deadline_fits word (by rw [given]) low, ?_⟩
  exact c.wait_measured regular h begun

def Rehearsal.clockwork : Clockwork Rehearsal where
  facts _ r := (none, r)
  spawn _ r := (.ok 1, r)
  poll _ := poll
  kill _ r := (r.killed, r)
  reap _ r := (r.reaped, r)
  now r := (r.clock, r)
  sleep := sleep
  log _ r := r
  time := clock
  facts_time _ _ := Nat.le_refl _
  spawn_time _ _ := Nat.le_refl _
  poll_time _ r := by rw [clock_poll]
  kill_time _ _ := Nat.le_refl _
  reap_time _ _ := Nat.le_refl _
  now_time _ := ⟨Nat.le_refl _, Nat.le_refl _⟩
  sleep_time _ r := Nat.add_le_add_left (Nat.le_max_left _ _) r.clock.nanos
  log_time _ _ := Nat.le_refl _

/-- The longest timeout, from the last start that leaves room for it. The child runs on, and no wait
of these limits takes more polls. -/
theorem Handle.wait_ends_soon_at_last_start :
    let o : Options := ⟨18446744073709551615, 7000000000000000000, "", false⟩
    let limits : Limits := ⟨.ofMillis o.timeoutMs, .ofMillis o.pollIntervalMs⟩
    let h : Handle := ⟨"sleep", .ofPid 1, ⟨9204925292781066255999999999⟩, .running⟩
    let r : Rehearsal := ⟨[], .ok (), .ok (.signaled 9 false), h.started⟩
    let calls := (h.wait Rehearsal.clockwork.system.traced limits (.start r)).2.calls
    o.limits = .ok limits ∧ o.timeoutMs < 2 ^ 64 ∧
      h.started.secs + 18446744073709552 < 2 ^ 63 ∧
      h.started.nanos ≤ (Rehearsal.clockwork.time r).nanos ∧
      h.started.after? limits.timeout = some (limits.deadline h.started) ∧
      Measured limits h.started calls ∧ (calls.filter (Call.polls h.pid)).length = 4 ∧
      limits.timeout.nanos ⌈/⌉ limits.pollInterval.nanos + 1 = 4 := by
  intro o limits h r calls
  have accepted : o.limits = .ok limits := by decide
  have soon := h.wait_ends_soon Rehearsal.clockwork accepted (s := r) (Nat.le_refl _)
  have fits := soon.1 (by decide) (by decide)
  refine ⟨accepted, by decide, by decide, Nat.le_refl _, fits, soon.2.2.1, ?_, ?_⟩
  · simp only [calls, h, limits, r, o]
    cbv
  · decide

end SupervisedShell
