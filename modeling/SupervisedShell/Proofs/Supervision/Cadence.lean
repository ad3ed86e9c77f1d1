import SupervisedShell.Proofs.Supervision.Timeline
import SupervisedShell.Proofs.Supervision.Verdict
/-!
A wait in ideal time, where only sleeps take time and each lasts exactly as long as asked. The
moments of its polls are then a matter of arithmetic: one beat after the other, the last of them at
the deadline.
-/

set_option autoImplicit false

namespace SupervisedShell

variable {σ α : Type}

theorem Duration.eq_of_nanos {d e : Duration} (same : d.nanos = e.nanos) : d = e := by
  cases d
  cases e
  exact congrArg mk same

theorem Instant.eq_of_nanos {t u : Instant} (same : t.nanos = u.nanos) : t = u := by
  cases t
  cases u
  exact congrArg mk same

/-- In ideal time nothing but a sleep takes time. Of a sleep of no length nothing is said. -/
structure Timeline.Ideal {sys : System σ} {pid : Nat} {end? : Option (Instant × WaitStatus)}
    (tl : Timeline sys pid end?) : Prop where
  facts : ∀ path s, tl.clock (sys.facts path s).2 = tl.clock s
  spawn : ∀ l s, tl.clock (sys.spawn l s).2 = tl.clock s
  poll : ∀ other s, tl.clock (sys.poll other s).2 = tl.clock s
  kill : ∀ other s, tl.clock (sys.kill other s).2 = tl.clock s
  reap : ∀ other s, tl.clock (sys.reap other s).2 = tl.clock s
  now : ∀ s, tl.clock (sys.now s).2 = tl.clock s
  sleep : ∀ d s, 0 < d.nanos → tl.clock (sys.sleep d s) = (tl.clock s).after d
  log : ∀ r s, tl.clock (sys.log r s) = tl.clock s

namespace Call

def length : Call → Duration
  | sleep d => d
  | _ => ⟨0⟩

def polls (pid : Nat) : Call → Bool
  | poll p _ => p = pid
  | _ => false

end Call

def onTime : Instant → List Call → List Stamp
  | _, [] => []
  | t, c :: calls => ⟨t, c, t.after c.length⟩ :: onTime (t.after c.length) calls

def timeAfter (t : Instant) (calls : List Call) : Instant :=
  calls.foldl (fun t c => t.after c.length) t

theorem onTime_append (t : Instant) (xs ys : List Call) :
    onTime t (xs ++ ys) = onTime t xs ++ onTime (timeAfter t xs) ys := by
  induction xs generalizing t with
  | nil => rfl
  | cons c xs ih =>
    rw [List.cons_append, onTime, ih]
    rfl

theorem calls_onTime (t : Instant) (calls : List Call) :
    (onTime t calls).map Stamp.call = calls := by
  induction calls generalizing t with
  | nil => rfl
  | cons c calls ih => rw [onTime, List.map_cons, ih]

theorem timeAfter_append (t : Instant) (xs ys : List Call) :
    timeAfter t (xs ++ ys) = timeAfter (timeAfter t xs) ys := List.foldl_append

def moments (kind : Call → Bool) (stamps : List Stamp) : List Instant :=
  (stamps.filter fun x => kind x.call).map Stamp.made

theorem moments_append (kind : Call → Bool) (xs ys : List Stamp) :
    moments kind (xs ++ ys) = moments kind xs ++ moments kind ys := by
  simp only [moments, List.filter_append, List.map_append]

theorem moments_onTime_eq_nil {kind : Call → Bool} {calls : List Call} (t : Instant)
    (other : ∀ c ∈ calls, kind c = false) : moments kind (onTime t calls) = [] := by
  rw [moments, List.map_eq_nil_iff, List.filter_eq_nil_iff]
  intro x hx
  rw [← calls_onTime t calls] at other
  simp [other x.call (List.mem_map_of_mem hx)]

namespace Timeline

variable {sys : System σ} {pid : Nat} {end? : Option (Instant × WaitStatus)}
  {tl : Timeline sys pid end?} {t : Instant}

def Punctual (tl : Timeline sys pid end?) (t : Instant) (w : Stamped σ) : Prop :=
  (∀ d, .sleep d ∈ w.calls → 0 < d.nanos) →
    w.stamps = onTime t w.calls ∧ tl.clock w.world = timeAfter t w.calls

theorem Punctual.ask {w : Stamped σ} (p : tl.Punctual t w) (f : σ → α × σ)
    (call : α → Call) (lasts : (∀ d, call (f w.world).1 = .sleep d → 0 < d.nanos) →
      tl.clock (f w.world).2 = (tl.clock w.world).after (call (f w.world).1).length) :
    tl.Punctual t (Stamped.ask tl.clock f call w).2 := by
  intro positive
  have calls : (Stamped.ask tl.clock f call w).2.calls = w.calls ++ [call (f w.world).1] := by
    simp [Stamped.ask, Stamped.calls]
  rw [calls] at positive ⊢
  obtain ⟨stamps, clock⟩ := p fun d hd => positive d (List.mem_append_left _ hd)
  have done := lasts fun d same => positive d (by simp [same])
  rw [clock] at done
  refine ⟨?_, ?_⟩
  · rw [onTime_append, ← stamps, Stamped.ask, clock, done]
    rfl
  · rw [timeAfter_append]
    exact done

theorem punctual_keeps (ideal : tl.Ideal) (t : Instant) :
    (sys.stamped tl.clock).Keeps (tl.Punctual t) where
  facts path w p := p.ask _ _ fun _ => ideal.facts path w.world
  spawn l w p := p.ask _ _ fun _ => ideal.spawn l w.world
  poll other w p := p.ask _ _ fun _ => ideal.poll other w.world
  kill other w p := p.ask _ _ fun _ => ideal.kill other w.world
  reap other w p := p.ask _ _ fun _ => ideal.reap other w.world
  now w p := p.ask _ _ fun _ => ideal.now w.world
  sleep d w p := p.ask (fun s => ((), sys.sleep d s)) (fun _ => .sleep d) fun positive =>
    ideal.sleep d w.world (positive d rfl)
  log r w p := by
    intro positive
    obtain ⟨stamps, clock⟩ := p positive
    exact ⟨stamps, (ideal.log r w.world).trans clock⟩

theorem Fits.sight {a : Except IoError (Option WaitStatus)}
    (fits : Fits pid end? ⟨t, .poll pid a, t⟩) :
    a = .ok (sightAt end? t) := by
  obtain ⟨u, made, done, seen⟩ := fits.poll a rfl
  obtain rfl : u = t := Instant.eq_of_nanos (Nat.le_antisymm done made)
  exact seen

theorem Fits.reading {u : Instant} (fits : Fits pid end? ⟨t, .now u, t⟩) : u = t := by
  obtain ⟨made, done⟩ := fits.now u rfl
  exact Instant.eq_of_nanos (Nat.le_antisymm done made)

end Timeline

namespace Limits

variable (limits : Limits)

def beat (k : Nat) : Duration := ⟨min (k * limits.pollInterval.nanos) limits.timeout.nanos⟩

variable {limits} {started : Instant} {k : Nat}

@[simp] theorem beat_zero : limits.beat 0 = ⟨0⟩ := by simp [beat]

theorem beat_le (k : Nat) : (limits.beat k).nanos ≤ limits.timeout.nanos := Nat.min_le_right _ _

/-- Beats before the deadline are no further apart than the limits say. -/
theorem beat_succ_le (k : Nat) :
    (limits.beat (k + 1)).nanos ≤ (limits.beat k).nanos + limits.pollInterval.nanos := by
  simp only [beat, Nat.succ_mul]
  omega

/-- The pause behind a poll before the deadline reaches to the next beat. -/
theorem after_pause (early : (limits.beat k).nanos < limits.timeout.nanos) :
    (started.after (limits.beat k)).after (limits.pause started (started.after (limits.beat k))) =
      started.after (limits.beat (k + 1)) := by
  simp only [beat, pause, deadline, Instant.after, Instant.since, Duration.shorter, Nat.succ_mul]
    at early ⊢
  exact congrArg Instant.mk (by omega)

end Limits

theorem since_after (t : Instant) (d : Duration) : (t.after d).since t = d := by
  simp [Instant.after, Instant.since]

/-- The end of a program with a span of life, which need not have an end. -/
def endOf (started : Instant) (life? : Option (Duration × WaitStatus)) :
    Option (Instant × WaitStatus) :=
  life?.map fun (d, status) => (started.after d, status)

def Outlives (life? : Option (Duration × WaitStatus)) (d : Duration) : Prop :=
  ∀ life status, life? = some (life, status) → d.nanos < life.nanos

theorem sightAt_endOf_eq_none_iff {started : Instant} {life? : Option (Duration × WaitStatus)}
    {d : Duration} :
    sightAt (endOf started life?) (started.after d) = none ↔ Outlives life? d := by
  rcases life? with _ | ⟨life, status⟩
  · simp [sightAt, endOf, Outlives]
  · simp [sightAt, endOf, Outlives, Instant.after]

theorem sightAt_endOf_eq_some {started : Instant} {life? : Option (Duration × WaitStatus)}
    {d : Duration}
    {status : WaitStatus} (seen : sightAt (endOf started life?) (started.after d) = some status) :
    ∃ life, life? = some (life, status) ∧ life.nanos ≤ d.nanos := by
  rcases life? with _ | ⟨life, status'⟩
  · simp [sightAt, endOf] at seen
  · by_cases ended : life.nanos ≤ d.nanos
    · simp [sightAt, endOf, Instant.after, ended] at seen
      exact ⟨life, by rw [seen], ended⟩
    · simp [sightAt, endOf, Instant.after, ended] at seen

section
variable {limits : Limits} {started : Instant} {pid : Nat} {life? : Option (Duration × WaitStatus)}

theorem rounds_onTime {rounds : List Round} (k : Nat)
    (early : ∀ r ∈ rounds, r.Early limits started)
    (fits : ∀ x ∈ onTime (started.after (limits.beat k)) (rounds.flatMap (Round.calls pid)),
      Timeline.Fits pid (endOf started life?) x) :
    timeAfter (started.after (limits.beat k)) (rounds.flatMap (Round.calls pid)) =
        started.after (limits.beat (k + rounds.length)) ∧
      moments (Call.polls pid)
        (onTime (started.after (limits.beat k)) (rounds.flatMap (Round.calls pid))) =
        (List.range' k rounds.length).map (fun i => started.after (limits.beat i)) ∧
      ∀ i, k ≤ i → i < k + rounds.length →
        Outlives life? (limits.beat i) ∧ (limits.beat i).nanos < limits.timeout.nanos := by
  induction rounds generalizing k with
  | nil =>
    refine ⟨rfl, rfl, ?_⟩
    intro i least most
    exact absurd most (Nat.not_lt_of_le least)
  | cons r rounds ih =>
    let t := started.after (limits.beat k)
    obtain ⟨⟨before, pause⟩, early⟩ := List.forall_mem_cons.mp early
    have stamps : onTime t (Round.calls pid r) =
        [⟨t, .poll pid (.ok none), t⟩, ⟨t, .now r.reading, t⟩,
          ⟨t, .sleep r.pause, t.after r.pause⟩] := rfl
    rw [List.flatMap_cons, onTime_append, stamps] at fits
    have seen := (fits ⟨t, .poll pid (.ok none), t⟩ (by simp)).sight
    have reading : r.reading = t := (fits ⟨t, .now r.reading, t⟩ (by simp)).reading
    have alive : Outlives life? (limits.beat k) := by
      rw [← sightAt_endOf_eq_none_iff]
      exact (Except.ok.inj seen).symm
    have early' : (limits.beat k).nanos < limits.timeout.nanos := by
      rw [reading] at before
      simpa [t, Limits.deadline, Instant.after] using before
    have next : timeAfter t (Round.calls pid r) = started.after (limits.beat (k + 1)) := by
      change t.after r.pause = started.after (limits.beat (k + 1))
      rw [pause, reading]
      exact Limits.after_pause early'
    rw [next] at fits
    obtain ⟨behind, polls, later⟩ :=
      ih (k + 1) early fun x hx => fits x (List.mem_append_right _ hx)
    refine ⟨?_, ?_, ?_⟩
    · rw [List.flatMap_cons, timeAfter_append, next, behind, List.length_cons, Nat.add_right_comm,
        Nat.add_assoc]
    · rw [List.flatMap_cons, onTime_append, moments_append, next, polls, stamps]
      simp [moments, Call.polls, List.range'_succ, t]
    · intro i least most
      rw [List.length_cons] at most
      rcases Nat.eq_or_lt_of_le least with rfl | more
      · exact ⟨alive, early'⟩
      · exact later i more (by omega)

end

theorem Round.sleep_pos {limits : Limits} {started : Instant} {pid : Nat} {rounds : List Round}
    {d : Duration}
    (regular : 0 < limits.pollInterval.nanos) (early : ∀ r ∈ rounds, r.Early limits started)
    (slept : .sleep d ∈ rounds.flatMap (Round.calls pid)) : 0 < d.nanos := by
  obtain ⟨r, hr, inside⟩ := List.mem_flatMap.mp slept
  obtain ⟨before, pause⟩ := early r hr
  obtain rfl : d = r.pause := by simpa [Round.calls] using inside
  rw [pause]
  simp only [Limits.pause, Duration.shorter, Instant.since]
  omega

/-- The stamps of some rounds from the start on, and of what comes behind them. -/
theorem rounds_from_start {limits : Limits} {started : Instant} {pid : Nat}
    {life? : Option (Duration × WaitStatus)} {rounds : List Round} {rest : List Call}
    (early : ∀ r ∈ rounds, r.Early limits started)
    (fits : ∀ x ∈ onTime started (rounds.flatMap (Round.calls pid) ++ rest),
      Timeline.Fits pid (endOf started life?) x) :
    ∃ front, onTime started (rounds.flatMap (Round.calls pid) ++ rest) =
        front ++ onTime (started.after (limits.beat rounds.length)) rest ∧
      moments (Call.polls pid) front =
        (List.range rounds.length).map (fun k => started.after (limits.beat k)) ∧
      moments (Call.kills pid) front = [] ∧
      ∀ k < rounds.length, Outlives life? (limits.beat k) ∧
        (limits.beat k).nanos < limits.timeout.nanos := by
  have first : started.after (limits.beat 0) = started := by simp [Instant.after]
  rw [onTime_append] at fits ⊢
  have own := rounds_onTime 0 early (fun x hx => fits x (List.mem_append_left _ (first ▸ hx)))
  rw [first, Nat.zero_add, ← List.range_eq_range'] at own
  obtain ⟨behind, polls, before⟩ := own
  refine ⟨onTime started (rounds.flatMap (Round.calls pid)), by rw [behind], polls, ?_, ?_⟩
  · refine moments_onTime_eq_nil started fun c hc => ?_
    obtain ⟨r, -, inside⟩ := List.mem_flatMap.mp hc
    simp only [Round.calls, List.mem_cons, List.not_mem_nil, or_false] at inside
    rcases inside with rfl | rfl | rfl <;> rfl
  · intro k hk
    exact before k (Nat.zero_le k) (by omega)

/-- The moments of the polls, and what comes of the wait: the child's own status by the first beat
that is not before its end, if that is in time, and else the kill at the deadline. -/
structure Paced (limits : Limits) (h : Handle) (life? : Option (Duration × WaitStatus)) (n : Nat)
    (result : Except ProgramError Report) (stamps : List Stamp) : Prop where
  polls : moments (Call.polls h.pid) stamps =
    (List.range (n + 1)).map fun k => h.started.after (limits.beat k)
  timedOut_iff : TimedOut limits result ↔ Outlives life? limits.timeout
  own : ∀ life status, life? = some (life, status) → life.nanos ≤ limits.timeout.nanos →
    result = .ok ⟨h.pid, limits.beat n, .ofStatus status⟩ ∧
      life.nanos ≤ (limits.beat n).nanos ∧ (∀ k < n, (limits.beat k).nanos < life.nanos) ∧
      (limits.beat n).nanos < life.nanos + limits.pollInterval.nanos ∧
      moments (Call.kills h.pid) stamps = []
  overdue : Outlives life? limits.timeout →
    result = .ok ⟨h.pid, limits.timeout, .timedOut limits.timeout⟩ ∧
      limits.beat n = limits.timeout ∧
        (∀ k < n, (limits.beat k).nanos < limits.timeout.nanos) ∧
      moments (Call.kills h.pid) stamps = [limits.deadline h.started]

section
variable {limits : Limits} {h : Handle} {life? : Option (Duration × WaitStatus)}
  {rounds : List Round} (early : ∀ r ∈ rounds, r.Early limits h.started)
include early

theorem Paced.of_gone {status : WaitStatus} {t : Instant} (regular : 0 < limits.pollInterval.nanos)
    (fits : ∀ x ∈ onTime h.started
      (rounds.flatMap (Round.calls h.pid) ++ (Ending.gone status t).calls h.pid),
      Timeline.Fits h.pid (endOf h.started life?) x) :
    Paced limits h life? rounds.length ((Ending.gone status t).result limits h)
      (onTime h.started (rounds.flatMap (Round.calls h.pid) ++
        (Ending.gone status t).calls h.pid)) := by
  obtain ⟨front, stamps, polls, kills, before⟩ := rounds_from_start early fits
  rw [stamps] at fits ⊢
  let last := h.started.after (limits.beat rounds.length)
  have rest : onTime last ((Ending.gone status t).calls h.pid) =
      [⟨last, .poll h.pid (.ok (some status)), last⟩, ⟨last, .now t, last⟩] := rfl
  rw [rest] at fits ⊢
  have sight := (fits ⟨last, .poll h.pid (.ok (some status)), last⟩ (by simp)).sight
  have reading : t = last := (fits ⟨last, .now t, last⟩ (by simp)).reading
  obtain ⟨life, ends, inTime⟩ := sightAt_endOf_eq_some (Except.ok.inj sight).symm
  have due : life.nanos ≤ limits.timeout.nanos := Nat.le_trans inTime (limits.beat_le _)
  have notOutlived : ¬ Outlives life? limits.timeout := fun outlives =>
    Nat.not_lt_of_le due (outlives life status ends)
  refine ⟨?_, ?_, ?_, fun outlives => absurd outlives notOutlived⟩
  · rw [moments_append, polls, List.range_succ, List.map_append]
    simp [moments, Call.polls, last]
  · exact iff_of_false (not_timedOut_ofStatus _ _ _ _) notOutlived
  · intro life' status' ends' _
    obtain ⟨rfl, rfl⟩ : life = life' ∧ status = status' := by simpa [ends] using ends'
    have earlier (k : Nat) (hk : k < rounds.length) : (limits.beat k).nanos < life.nanos :=
      (before k hk).1 life status ends
    refine ⟨?_, inTime, earlier, ?_, ?_⟩
    · rw [Ending.result, reading, since_after]
    · rcases length : rounds.length with _ | m
      · rw [Limits.beat_zero]
        exact Nat.lt_of_lt_of_le regular (Nat.le_add_left _ _)
      · have step := limits.beat_succ_le m
        have earlier := earlier m (by omega)
        omega
    · rw [moments_append, kills]
      simp [moments, Call.kills]

theorem Paced.of_overdue {t t' : Instant} {k : Except IoError Unit} {q : Except IoError WaitStatus}
    (due : (limits.deadline h.started).nanos ≤ t.nanos)
    (fits : ∀ x ∈ onTime h.started (rounds.flatMap (Round.calls h.pid) ++
      (Ending.overdue t k q t').calls h.pid), Timeline.Fits h.pid (endOf h.started life?) x) :
    Paced limits h life? rounds.length ((Ending.overdue t k q t').result limits h)
      (onTime h.started (rounds.flatMap (Round.calls h.pid) ++
        (Ending.overdue t k q t').calls h.pid)) := by
  obtain ⟨front, stamps, polls, kills, before⟩ := rounds_from_start early fits
  rw [stamps] at fits ⊢
  let last := h.started.after (limits.beat rounds.length)
  have rest : onTime last ((Ending.overdue t k q t').calls h.pid) =
      [⟨last, .poll h.pid (.ok none), last⟩, ⟨last, .now t, last⟩,
        ⟨last, .kill h.pid k, last⟩,
        ⟨last, .reap h.pid q, last⟩, ⟨last, .now t', last⟩] := rfl
  rw [rest] at fits ⊢
  have sight := (fits ⟨last, .poll h.pid (.ok none), last⟩ (by simp)).sight
  have reading : t = last := (fits ⟨last, .now t, last⟩ (by simp)).reading
  have reported : t' = last := (fits ⟨last, .now t', last⟩ (by simp)).reading
  -- The last beat is the deadline, since no beat comes later and the reading was past it.
  have beat : limits.beat rounds.length = limits.timeout := by
    have most := limits.beat_le rounds.length
    simp only [reading, last, Limits.deadline, Instant.after] at due
    exact Duration.eq_of_nanos (by omega)
  have outlives : Outlives life? limits.timeout := by
    rw [← beat, ← sightAt_endOf_eq_none_iff]
    exact (Except.ok.inj sight).symm
  refine ⟨?_, iff_of_true ⟨_, rfl, rfl⟩ outlives, ?_,
    fun _ => ⟨?_, beat, fun k hk => (before k hk).2, ?_⟩⟩
  · rw [moments_append, polls, List.range_succ, List.map_append]
    simp [moments, Call.polls, last]
  · intro life status ends inTime
    exact absurd (outlives life status ends) (Nat.not_lt_of_le inTime)
  · rw [Ending.result, reported, since_after, beat]
  · rw [moments_append, kills]
    simp [moments, Call.kills, last, beat, Limits.deadline]

end

/-- In ideal time a wait from the start of the program on polls at the beats, at no other moment and
in order. It tells the child's own status exactly if that was there by the deadline, and as soon as
a beat can tell; else it kills the child at the deadline itself. -/
theorem Handle.wait_paced {sys : System σ} {h : Handle} {life? : Option (Duration × WaitStatus)}
    {tl : Timeline sys h.pid (endOf h.started life?)} (ideal : tl.Ideal) (limits : Limits)
    (regular : 0 < limits.pollInterval.nanos) (unknown : h.child.status? = none) {s : σ}
    (starts : tl.clock s = h.started) :
    let (result, w) := h.wait (sys.stamped tl.clock) limits (.start s)
    ∃ n, Paced limits h life? n result w.stamps := by
  obtain ⟨rounds, ending, w, early, due, waited, calls⟩ :=
    h.wait_stamped sys tl.clock limits unknown s
  have chronicle := tl.wait_chronicle limits h s
  have punctual := h.wait_keeps (Timeline.punctual_keeps ideal h.started) limits
    (s := .start s) fun _ => ⟨rfl, starts⟩
  rw [waited] at chronicle punctual ⊢
  have stamps : w.stamps = onTime h.started w.calls := by
    refine (punctual fun d slept => ?_).1
    rw [calls] at slept
    rcases List.mem_append.mp slept with inside | last
    · exact Round.sleep_pos regular early inside
    · cases ending <;> simp [Ending.calls] at last
  have fits := chronicle.fits
  rw [stamps, calls] at fits
  refine ⟨rounds.length, ?_⟩
  rw [stamps, calls]
  cases ending with
  | gone status t => exact .of_gone early regular fits
  | overdue t k q t' => exact .of_overdue early due fits
  | lost cause k q =>
    obtain ⟨front, split, -, -, -⟩ := rounds_from_start early fits
    let last := h.started.after (limits.beat rounds.length)
    have first : ⟨last, .poll h.pid (.error cause), last⟩ ∈
        onTime h.started (rounds.flatMap (Round.calls h.pid) ++
          (Ending.lost cause k q).calls h.pid) := by
      rw [split]
      exact List.mem_append_right _ List.mem_cons_self
    cases (fits _ first).sight

def Sundial.system (end? : Option (Instant × WaitStatus)) : System Instant where
  facts _ t := (none, t)
  spawn _ t := (.ok 1, t)
  poll _ t := (.ok (sightAt end? t), t)
  kill _ t := (.ok (), t)
  reap _ t := (.ok ((sightAt end? t).getD (.signaled 9 false)), t)
  now t := (t, t)
  sleep d t := t.after (d.longer ⟨1⟩)
  log _ t := t
  readings moment t := moment.nanos - t.nanos
  readings_log _ _ _ := Nat.le_refl _
  readings_lt _ moment d t t' early between := by
    simp only [Instant.after, Duration.longer] at early between ⊢
    omega

def Sundial.timeline (end? : Option (Instant × WaitStatus)) (pid : Nat) :
    Timeline (system end?) pid end? where
  clock t := t
  poll t := ⟨t, Nat.le_refl _, Nat.le_refl _, rfl⟩
  now _ := ⟨Nat.le_refl _, Nat.le_refl _⟩
  sleep _ t := Nat.add_le_add_left (Nat.le_max_left _ _) t.nanos
  facts _ _ := Nat.le_refl _
  spawn _ _ := Nat.le_refl _
  polls _ _ := Nat.le_refl _
  kill _ _ := Nat.le_refl _
  reap _ _ := Nat.le_refl _
  log _ _ := Nat.le_refl _

theorem Sundial.ideal (end? : Option (Instant × WaitStatus)) (pid : Nat) :
    (timeline end? pid).Ideal where
  facts _ _ := rfl
  spawn _ _ := rfl
  poll _ _ := rfl
  kill _ _ := rfl
  reap _ _ := rfl
  now _ := rfl
  sleep d t positive := by
    have longer : d.longer ⟨1⟩ = d := Duration.eq_of_nanos (Nat.max_eq_left positive)
    exact congrArg t.after longer
  log _ _ := rfl

/-- A child that ends just at its deadline, which no whole number of poll intervals reaches. -/
theorem Handle.wait_paced_to_deadline :
    let life? := some (Duration.mk 5, WaitStatus.exited 7)
    let h : Handle := ⟨"sleep", .ofPid 1, ⟨10⟩, .running⟩
    let limits : Limits := ⟨⟨5⟩, ⟨2⟩⟩
    let tl := Sundial.timeline (endOf h.started life?) h.pid
    let (result, w) := h.wait ((Sundial.system (endOf h.started life?)).stamped tl.clock) limits
      (.start h.started)
    tl.Ideal ∧ 0 < limits.pollInterval.nanos ∧ h.child.status? = none ∧
      (∃ n, Paced limits h life? n result w.stamps) ∧
        result = .ok ⟨1, ⟨5⟩, .exited 7⟩ ∧
      moments (Call.polls 1) w.stamps = [⟨10⟩, ⟨12⟩, ⟨14⟩, ⟨15⟩] := by
  intro life? h limits tl
  have ideal : tl.Ideal := Sundial.ideal (endOf h.started life?) h.pid
  refine ⟨ideal, by decide, rfl, h.wait_paced ideal limits (by decide) rfl rfl, ?_, ?_⟩ <;> cbv

end SupervisedShell
