import SupervisedShell.Proofs.Supervision.Timeline
import SupervisedShell.Proofs.Supervision.Verdict

set_option autoImplicit false

namespace SupervisedShell

variable {σ : Type}

/-- Between a poll and the reading right behind it the child ended and the deadline passed. -/
def Overtaken (pid : Nat) (e deadline : Instant) (stamps : List Stamp) : Prop :=
  ∃ pre p q post t, stamps = pre ++ p :: q :: post ∧
    (∀ x ∈ pre, ∀ a, x.call = .poll pid a → a = .ok none) ∧
    p.call = .poll pid (.ok none) ∧ q.call = .now t ∧
    p.made.nanos < e.nanos ∧ e.nanos < t.nanos ∧ deadline.nanos ≤ t.nanos

section
variable {limits : Limits} {h : Handle} {e deadline : Instant} {status : WaitStatus}
  {stamps : List Stamp} {xs : List Call}

/-- A status that has come was asked for in time. -/
theorem not_overtaken {a : Except IoError (Option WaitStatus)} {ys : List Call}
    (early : ∀ c ∈ xs, c.IsEarly h.pid deadline) (other : a ≠ .ok none)
    (calls : stamps.map Stamp.call = xs ++ .poll h.pid a :: ys) :
    ¬ Overtaken h.pid e deadline stamps := by
  rintro ⟨pre, p, q, post, t, rfl, running, polled, read, -, -, late⟩
  have none : ¬ ∃ pre t post, xs ++ .poll h.pid a :: ys = pre ++ .now t :: post ∧
      (∀ a, .poll h.pid a ∈ pre → a = .ok none) ∧ deadline.nanos ≤ t.nanos :=
    no_overdue_reading early other
  refine none ⟨pre.map Stamp.call ++ [p.call], t, post.map Stamp.call, ?_, ?_, late⟩
  · rw [← calls, ← read]
    simp
  · intro a' seen
    rcases List.mem_append.mp seen with inside | last
    · obtain ⟨x, hx, same⟩ := List.mem_map.mp inside
      exact running x hx a' same
    · rw [polled, List.mem_singleton] at last
      cases last
      rfl

theorem overtaken_of_overdue {t : Instant} {ys : List Call}
    (early : ∀ c ∈ xs, c.IsEarly h.pid deadline) (due : deadline.nanos ≤ t.nanos)
    (before : e.nanos < deadline.nanos)
    (fits : ∀ x ∈ stamps, Timeline.Fits h.pid (some (e, status)) x)
    (calls : stamps.map Stamp.call = xs ++ .poll h.pid (.ok none) :: .now t :: ys) :
    Overtaken h.pid e deadline stamps := by
  obtain ⟨pre, rest, rfl, front, calls⟩ := List.map_eq_append_iff.mp calls
  obtain ⟨p, rest, rfl, polled, calls⟩ := List.map_eq_cons_iff.mp calls
  obtain ⟨q, post, rfl, read, -⟩ := List.map_eq_cons_iff.mp calls
  refine ⟨pre, p, q, post, t, rfl, ?_, polled, read, ?_, Nat.lt_of_lt_of_le before due, due⟩
  · intro x hx a same
    refine poll_early early ?_
    rw [← front, ← same]
    exact List.mem_map_of_mem hx
  · obtain ⟨seen, made, -, none⟩ := (fits p (by simp)).poll _ polled
    have running : ¬ e.nanos ≤ seen.nanos := by
      intro ended
      simp [sightAt, ended] at none
    omega

/-- The status that a poll brings is the child's own, and the reading behind it comes
after the end. -/
theorem own_of_gone {status' : WaitStatus} {t : Instant}
    (fits : ∀ x ∈ stamps, Timeline.Fits h.pid (some (e, status)) x)
    (ordered : stamps.Pairwise fun x y => x.done.nanos ≤ y.made.nanos)
    (calls : stamps.map Stamp.call = xs ++ [.poll h.pid (.ok (some status')), .now t]) :
    status' = status ∧ e.nanos ≤ t.nanos := by
  obtain ⟨pre, rest, rfl, -, calls⟩ := List.map_eq_append_iff.mp calls
  obtain ⟨p, rest, rfl, polled, calls⟩ := List.map_eq_cons_iff.mp calls
  obtain ⟨q, post, rfl, read, -⟩ := List.map_eq_cons_iff.mp calls
  obtain ⟨seen, -, done, gone⟩ := (fits p (by simp)).poll _ polled
  have now := (fits q (by simp)).now t read
  have order : p.done.nanos ≤ q.made.nanos := by
    have last := (List.pairwise_append.mp ordered).2.1
    exact (List.pairwise_cons.mp last).1 q (by simp)
  by_cases ended : e.nanos ≤ seen.nanos
  · simp only [sightAt, ended, if_true, Except.ok.injEq, Option.some.injEq] at gone
    exact ⟨gone, by omega⟩
  · simp [sightAt, ended] at gone

end

/-- A child that ends by itself before its deadline is reported with its own status, unless the wait
is overtaken between a poll and the reading behind it. -/
theorem Handle.wait_own_unless_overtaken {sys : System σ} {h : Handle} {e : Instant}
    {status : WaitStatus} (tl : Timeline sys h.pid (some (e, status))) (limits : Limits)
    (unknown : h.child.status? = none)
    (before : e.nanos < (limits.deadline h.started).nanos) (s : σ) :
    let (result, w) := h.wait (sys.stamped tl.clock) limits (.start s)
    (TimedOut limits result ↔ Overtaken h.pid e (limits.deadline h.started) w.stamps) ∧
      (¬ TimedOut limits result → ∃ t, .now t ∈ w.calls ∧ e.nanos ≤ t.nanos ∧
        result = .ok ⟨h.pid, t.since h.started, .ofStatus status⟩) := by
  obtain ⟨rounds, ending, w, early, due, waited, calls⟩ :=
    h.wait_stamped sys tl.clock limits unknown s
  have chronicle := tl.wait_chronicle limits h s
  rw [waited] at chronicle ⊢
  have early (c : Call) (hc : c ∈ rounds.flatMap (Round.calls h.pid)) := Round.isEarly early hc
  cases ending with
  | gone status' t =>
    obtain ⟨rfl, after⟩ := own_of_gone chronicle.fits chronicle.ordered calls
    have own := not_timedOut_ofStatus limits h.pid (t.since h.started) status'
    refine ⟨iff_of_false own (not_overtaken early (by simp) calls),
      fun _ => ⟨t, ?_, after, rfl⟩⟩
    rw [calls]
    simp [Ending.calls]
  | lost cause k q =>
    obtain ⟨pre, rest, split, -, last⟩ := List.map_eq_append_iff.mp calls
    obtain ⟨p, rest, rfl, polled, -⟩ := List.map_eq_cons_iff.mp last
    obtain ⟨seen, -, -, failed⟩ := (chronicle.fits p (by simp [split])).poll _ polled
    cases failed
  | overdue t k q t' =>
    have timedOut : TimedOut limits (Ending.result limits h (.overdue t k q t')) :=
      ⟨_, rfl, rfl⟩
    refine ⟨iff_of_true timedOut ?_, fun other => absurd timedOut other⟩
    exact overtaken_of_overdue early due before chronicle.fits calls

/-- A child that ends by itself at 3, seen at 4 by the third poll. -/
theorem Handle.wait_own_at_steady_pace :
    let end? := some (Instant.mk 3, WaitStatus.exited 7)
    let h : Handle := ⟨"sleep", .ofPid 1, ⟨0⟩, .running⟩
    let limits : Limits := ⟨⟨5⟩, ⟨2⟩⟩
    let (result, w) := h.wait ((Pace.system end?).stamped (Pace.timeline end? h.pid).clock) limits
      (.start ⟨⟨0⟩, []⟩)
    h.child.status? = none ∧ 3 < (limits.deadline h.started).nanos ∧
      ¬ Overtaken h.pid ⟨3⟩ (limits.deadline h.started) w.stamps ∧
        result = .ok ⟨1, ⟨4⟩, .exited 7⟩ := by
  intro end? h limits
  have told : (h.wait ((Pace.system end?).stamped (Pace.timeline end? h.pid).clock) limits
      (.start ⟨⟨0⟩, []⟩)).1 = .ok ⟨1, ⟨4⟩, .exited 7⟩ := by cbv
  have own :=
    h.wait_own_unless_overtaken (Pace.timeline end? h.pid) limits rfl (by decide) ⟨⟨0⟩, []⟩
  rcases waited : h.wait ((Pace.system end?).stamped (Pace.timeline end? h.pid).clock) limits
    (.start ⟨⟨0⟩, []⟩) with ⟨result, w⟩
  rw [waited] at told own
  cases told
  refine ⟨rfl, by decide, ?_, rfl⟩
  intro overtaken
  exact not_timedOut_ofStatus limits 1 ⟨4⟩ (.exited 7) (own.1.mpr overtaken)

/-- A child that ends by itself at 3, before its deadline at 5. The first poll comes at 0 and takes
until 7, so time seems up: the child is killed too late, and its own status, which the last wait
brings home, is passed over. -/
theorem Handle.wait_overtaken_by_slow_poll :
    let end? := some (Instant.mk 3, WaitStatus.exited 7)
    let h : Handle := ⟨"sleep", .ofPid 1, ⟨0⟩, .running⟩
    let limits : Limits := ⟨⟨5⟩, ⟨2⟩⟩
    let (result, w) := h.wait ((Pace.system end?).stamped (Pace.timeline end? h.pid).clock) limits
      (.start ⟨⟨0⟩, [7]⟩)
    3 < (limits.deadline h.started).nanos ∧
      result = .ok ⟨1, ⟨7⟩, .timedOut limits.timeout⟩ ∧
      w.calls = [.poll 1 (.ok none), .now ⟨7⟩, .kill 1 (.ok ()), .reap 1 (.ok (.exited 7)),
        .now ⟨7⟩] := by
  refine ⟨by decide, ?_, ?_⟩ <;> cbv

end SupervisedShell
