import SupervisedShell.Proofs.Supervision.Calls
/-!
What a handle does to the system, operation by operation. A poll is one of three sights, and a watch
is a number of rounds with the child running, then one of three endings. Calls, answer and handle
are read off the sight or the ending, so later arguments need not open the operations again.
-/

set_option autoImplicit false

namespace SupervisedShell

variable {σ : Type}

def Handle.answered (h : Handle) (q : Except IoError WaitStatus) : Handle :=
  { h with child := { h.child with status? := q.toOption } }

/-- What a poll shows of a child whose status is not known yet. -/
inductive Sight where
  | running
  | gone (status : WaitStatus)
  | lost (cause : IoError) (kill : Except IoError Unit) (reap : Except IoError WaitStatus)

namespace Sight

def calls (pid : Nat) : Sight → List Call
  | running => [.poll pid (.ok none)]
  | gone status => [.poll pid (.ok (some status))]
  | lost cause kill reap => [.poll pid (.error cause), .kill pid kill, .reap pid reap]

def answer (h : Handle) : Sight → Except ProgramError (Option Outcome)
  | running => .ok none
  | gone status => .ok (some (.ofStatus status))
  | lost cause _ _ => .error (.lost h.name h.pid cause)

def after (h : Handle) : Sight → Handle
  | running => h
  | gone status => { h.answered (.ok status) with state := .finished (.ofStatus status) }
  | lost _ _ reap => { h.answered reap with state := .lookupFailed }

@[simp] theorem pid_after (h : Handle) (v : Sight) : (v.after h).pid = h.pid := by cases v <;> rfl

@[simp] theorem started_after (h : Handle) (v : Sight) : (v.after h).started = h.started := by
  cases v <;> rfl

end Sight

/-- The child was seen running, the clock stood before the deadline, and a sleep followed. -/
structure Round where
  reading : Instant
  pause : Duration

def Round.calls (pid : Nat) (r : Round) : List Call :=
  [.poll pid (.ok none), .now r.reading, .sleep r.pause]

def Round.Early (limits : Limits) (started : Instant) (r : Round) : Prop :=
  r.reading.nanos < (limits.deadline started).nanos ∧ r.pause = limits.pause started r.reading

/-- How a watch ends: the status comes, the child is lost, or its time is up. -/
inductive Ending where
  | gone (status : WaitStatus) (reported : Instant)
  | lost (cause : IoError) (kill : Except IoError Unit) (reap : Except IoError WaitStatus)
  | overdue (reading : Instant) (kill : Except IoError Unit) (reap : Except IoError WaitStatus)
      (reported : Instant)

namespace Ending

def calls (pid : Nat) : Ending → List Call
  | gone status reported => [.poll pid (.ok (some status)), .now reported]
  | lost cause kill reap => [.poll pid (.error cause), .kill pid kill, .reap pid reap]
  | overdue reading kill reap reported =>
    [.poll pid (.ok none), .now reading, .kill pid kill, .reap pid reap, .now reported]

def result (limits : Limits) (h : Handle) : Ending → Except ProgramError Report
  | gone status reported => .ok ⟨h.pid, reported.since h.started, .ofStatus status⟩
  | lost cause _ _ => .error (.lost h.name h.pid cause)
  | overdue _ _ _ reported => .ok ⟨h.pid, reported.since h.started, .timedOut limits.timeout⟩

def after (limits : Limits) (h : Handle) : Ending → Handle
  | gone status _ => { h.answered (.ok status) with state := .finished (.ofStatus status) }
  | lost _ _ reap => { h.answered reap with state := .lookupFailed }
  | overdue _ _ reap _ => { h.answered reap with state := .finished (.timedOut limits.timeout) }

@[simp] theorem pid_after (limits : Limits) (h : Handle) (e : Ending) :
    (e.after limits h).pid = h.pid := by
  cases e <;> rfl

def Due (moment : Instant) : Ending → Prop
  | overdue reading _ _ _ => moment.nanos ≤ reading.nanos
  | _ => True

end Ending

namespace Handle

theorem killAndReap_traced (sys : System σ) {h : Handle} (unknown : h.child.status? = none)
    (w : Traced σ) :
    ∃ k q s, h.killAndReap sys w.world = (h.answered q, s) ∧
      h.killAndReap sys.traced w =
        (h.answered q, ⟨s, w.calls ++ [.kill h.pid k, .reap h.pid q]⟩) := by
  obtain ⟨name, ⟨pid, status?⟩, started, state⟩ := h
  cases unknown
  match killed : sys.kill pid w.world with
  | (.ok (), s₁) =>
    rcases reaped : sys.reap pid s₁ with ⟨q, s₂⟩
    refine ⟨.ok (), q, ?_⟩
    cases q <;> simp [killAndReap, Child.kill, Child.reap, Handle.pid, answered, killed, reaped,
      Except.toOption]
  | (.error e, s₁) =>
    rcases reaped : sys.reap pid (sys.log (.killFailed pid e) s₁) with ⟨q, s₂⟩
    refine ⟨.error e, q, ?_⟩
    cases q <;> simp [killAndReap, Child.kill, Child.reap, Handle.pid, answered, killed, reaped,
      Except.toOption]

theorem poll_traced (sys : System σ) {h : Handle} (unknown : h.child.status? = none)
    (w : Traced σ) :
    ∃ (v : Sight) (s : σ), h.poll sys w.world = (v.answer h, v.after h, s) ∧
      h.poll sys.traced w = (v.answer h, v.after h, ⟨s, w.calls ++ v.calls h.pid⟩) := by
  obtain ⟨name, ⟨pid, status?⟩, started, state⟩ := h
  cases unknown
  match asked : sys.poll pid w.world with
  | (.ok none, s) =>
    refine ⟨.running, s, ?_⟩
    simp [poll, Child.poll, asked, Sight.answer, Sight.after, Sight.calls, Handle.pid]
  | (.ok (some status), s) =>
    refine ⟨.gone status, s, ?_⟩
    simp [poll, Child.poll, asked, Sight.answer, Sight.after, Sight.calls, Handle.pid, answered,
      Except.toOption]
  | (.error e, s) =>
    obtain ⟨k, q, s', plain, traced⟩ := killAndReap_traced sys
      (h := ⟨name, ⟨pid, none⟩, started, .lookupFailed⟩) rfl
      ⟨sys.log (.queryFailed name pid e) s, w.calls ++ [.poll pid (.error e)]⟩
    refine ⟨.lost e k q, s', ?_, ?_⟩
    · simp [poll, Child.poll, asked, plain, Sight.answer, Sight.after, Handle.pid, answered]
    · simp [poll, Child.poll, asked, traced, Sight.answer, Sight.after, Sight.calls, Handle.pid,
        answered]

/-- A known status is told again, and the system is left alone. -/
theorem poll_of_known (sys : System σ) {h : Handle} {status : WaitStatus}
    (known : h.child.status? = some status) (s : σ) :
    h.poll sys s = (.ok (some (.ofStatus status)), { h with state := .finished (.ofStatus status) },
      s) := by
  simp [poll, Child.poll, known]

theorem poll_sight (sys : System σ) {h : Handle} (unknown : h.child.status? = none) (s : σ) :
    ∃ (v : Sight) (s' : σ), h.poll sys s = (v.answer h, v.after h, s') := by
  obtain ⟨v, s', seen, -⟩ := poll_traced sys unknown (.start s)
  exact ⟨v, s', seen⟩

@[simp] theorem pid_poll (sys : System σ) (h : Handle) (s : σ) :
    (h.poll sys s).2.1.pid = h.pid := by
  cases known : h.child.status? with
  | some status => rw [poll_of_known sys known]; rfl
  | none =>
    obtain ⟨v, s', seen⟩ := poll_sight sys known s
    simp [seen]

@[simp] theorem started_poll (sys : System σ) (h : Handle) (s : σ) :
    (h.poll sys s).2.1.started = h.started := by
  cases known : h.child.status? with
  | some status => rw [poll_of_known sys known]
  | none =>
    obtain ⟨v, s', seen⟩ := poll_sight sys known s
    simp [seen]

theorem watch_of_error {sys : System σ} {limits : Limits} {h h' : Handle}
    {e : ProgramError} {s s' : σ}
    (seen : h.poll sys s = (.error e, h', s')) : h.watch sys limits s = (.error e, h', s') := by
  rw [watch]
  split <;> simp_all

theorem watch_of_outcome {sys : System σ} {limits : Limits} {h h' : Handle}
    {o : Outcome} {s s' : σ}
    (seen : h.poll sys s = (.ok (some o), h', s')) : h.watch sys limits s =
      (.ok (h'.report sys o s').1, h', (h'.report sys o s').2) := by
  rw [watch]
  split <;> simp_all

theorem watch_of_running {sys : System σ} {limits : Limits} {h h' : Handle} {s s' : σ}
    (seen : h.poll sys s = (.ok none, h', s')) : h.watch sys limits s =
      if (limits.deadline h.started).nanos ≤ (sys.now s').1.nanos then
        (.ok (h.expire sys limits (sys.now s').2).1, (h.expire sys limits (sys.now s').2).2)
      else
        h.watch sys limits (sys.sleep (limits.pause h.started (sys.now s').1)
          (sys.log (.stillRunning h.pid) (sys.now s').2)) := by
  rw [watch]
  split <;> simp_all

theorem expire_traced (sys : System σ) (limits : Limits) {h : Handle}
    (unknown : h.child.status? = none) (w : Traced σ) :
    ∃ k q t s, let last := { h.answered q with state := .finished (.timedOut limits.timeout) }
      let report : Report := ⟨h.pid, Instant.since t h.started, .timedOut limits.timeout⟩
      h.expire sys limits w.world = (report, last, s) ∧
        h.expire sys.traced limits w =
          (report, last, ⟨s, w.calls ++ [.kill h.pid k, .reap h.pid q, .now t]⟩) := by
  obtain ⟨k, q, s, plain, traced⟩ := killAndReap_traced sys unknown
    ⟨sys.log (.overdue h.name h.pid limits.timeout) w.world, w.calls⟩
  refine ⟨k, q, (sys.now s).1,
    sys.log (.finished h.name h.pid (.timedOut limits.timeout)) (sys.now s).2, ?_, ?_⟩
  · simp only [expire, plain, report]
    rfl
  · simp only [expire, System.traced_log, traced, report, System.traced_now, List.append_assoc]
    rfl

/-- The course of a watch: rounds before the deadline, then an ending. -/
theorem watch_traced (sys : System σ) (limits : Limits) {h : Handle}
    (unknown : h.child.status? = none) (w : Traced σ) :
    ∃ (rounds : List Round) (e : Ending) (s : σ),
      (∀ r ∈ rounds, r.Early limits h.started) ∧ e.Due (limits.deadline h.started) ∧
      h.watch sys limits w.world = (e.result limits h, e.after limits h, s) ∧
      h.watch sys.traced limits w = (e.result limits h, e.after limits h,
        ⟨s, w.calls ++ (rounds.flatMap (Round.calls h.pid) ++ e.calls h.pid)⟩) := by
  -- The bound on the readings to come falls with every round, as it does in the recursion itself.
  generalize bound : sys.readings (limits.deadline h.started) w.world = n
  induction n using Nat.strongRecOn generalizing w with
  | ind n ih =>
    obtain ⟨v, s, plain, traced⟩ := poll_traced sys unknown w
    cases v with
    | gone status =>
      refine ⟨[], .gone status (sys.now s).1, _, by simp, trivial, watch_of_outcome plain, ?_⟩
      rw [watch_of_outcome traced]
      simp [report, Sight.calls, Sight.after, Ending.result, Ending.after, Ending.calls, Handle.pid,
        Handle.answered]
    | lost e k q =>
      exact ⟨[], .lost e k q, s, by simp, trivial, watch_of_error plain, watch_of_error traced⟩
    | running =>
      rw [watch_of_running plain, watch_of_running traced]
      by_cases late : (limits.deadline h.started).nanos ≤ (sys.now s).1.nanos
      · obtain ⟨k, q, t, s', expired, expired'⟩ := expire_traced sys limits unknown
          ⟨(sys.now s).2, w.calls ++ [.poll h.pid (.ok none), .now (sys.now s).1]⟩
        refine ⟨[], .overdue (sys.now s).1 k q t, s', by simp, late, ?_, ?_⟩
        · simp [late, expired, Ending.result, Ending.after]
        · simp [late, expired', Sight.calls, Ending.result, Ending.after, Ending.calls]
      · have early := Nat.lt_of_not_le late
        let pause := limits.pause h.started (sys.now s).1
        let told := sys.log (.stillRunning h.pid) (sys.now s).2
        have fewer : sys.readings (limits.deadline h.started) (sys.sleep pause told) < n := by
          obtain ⟨-, rfl⟩ := poll_running plain
          rw [← bound]
          exact sys.readings_lt _ _ _ _ _ early (sys.readings_log _ _ _)
        obtain ⟨rounds, e, s', all, due, ended, ended'⟩ := ih _ fewer
          ⟨_, w.calls ++ Round.calls h.pid ⟨(sys.now s).1, pause⟩⟩ rfl
        refine ⟨⟨(sys.now s).1, pause⟩ :: rounds, e, s', ?_, due, ?_, ?_⟩
        · exact List.forall_mem_cons.mpr ⟨⟨early, rfl⟩, all⟩
        · rw [if_neg late]
          exact ended
        · simpa [late, Sight.calls, Round.calls, pause] using ended'

theorem watch_of_known (sys : System σ) (limits : Limits) {h : Handle} {status : WaitStatus}
    (known : h.child.status? = some status) (s : σ) :
    h.watch sys limits s = (.ok ⟨h.pid, (sys.now s).1.since h.started, .ofStatus status⟩,
      { h with state := .finished (.ofStatus status) },
      sys.log (.finished h.name h.pid (.ofStatus status)) (sys.now s).2) :=
  watch_of_outcome (poll_of_known sys known s)

theorem watch_ending (sys : System σ) (limits : Limits) {h : Handle}
    (unknown : h.child.status? = none) (s : σ) :
    ∃ (e : Ending) (s' : σ), h.watch sys limits s =
      (e.result limits h, e.after limits h, s') := by
  obtain ⟨-, e, s', -, -, ended, -⟩ := watch_traced sys limits unknown (.start s)
  exact ⟨e, s', ended⟩

theorem drop_of_not_running (sys : System σ) {h : Handle} (done : h.state ≠ .running) (s : σ) :
    h.drop sys s = s := if_neg done

theorem drop_running_traced (sys : System σ) {h : Handle} (running : h.state = .running)
    (unknown : h.child.status? = none) (w : Traced σ) :
    ∃ k q s, h.drop sys.traced w = ⟨s, w.calls ++ [.kill h.pid k, .reap h.pid q]⟩ := by
  obtain ⟨k, q, s, -, traced⟩ := killAndReap_traced sys unknown w
  refine ⟨k, q, s, ?_⟩
  rw [drop, if_pos running, traced]

/-- Nothing is left for the drop at the end of a watch. -/
theorem watch_not_running (sys : System σ) (limits : Limits) (h : Handle) (s : σ) :
    (h.watch sys limits s).2.1.state ≠ .running := by
  cases known : h.child.status? with
  | some status => simp [watch_of_known sys limits known]
  | none =>
    obtain ⟨e, s', ended⟩ := watch_ending sys limits known s
    cases e <;> simp [ended, Ending.after]

theorem wait_eq_watch (sys : System σ) (limits : Limits) (h : Handle) (s : σ) :
    h.wait sys limits s = ((h.watch sys limits s).1, (h.watch sys limits s).2.2) := by
  simp only [wait, drop_of_not_running sys (watch_not_running sys limits h s)]

theorem spawn_traced {sys : System σ} {l : Launch} {w w' : Traced σ} {h : Handle}
    (spawned : spawn sys.traced l w = (.ok h, w')) : ∃ pid started,
      h = ⟨l.name, .ofPid pid, started, .running⟩ ∧
        w'.calls = w.calls ++ [.spawn l (.ok pid), .now started] := by
  unfold spawn at spawned
  split at spawned
  · simp at spawned
  · match made : sys.spawn l w.world with
    | (.error e, s) => simp [made] at spawned
    | (.ok pid, s) =>
      simp only [System.traced_spawn, made, System.traced_log, System.traced_now, Prod.mk.injEq,
        Except.ok.injEq] at spawned
      obtain ⟨rfl, rfl⟩ := spawned
      exact ⟨pid, _, rfl, by simp⟩

end Handle

end SupervisedShell
