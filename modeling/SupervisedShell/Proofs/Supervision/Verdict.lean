import SupervisedShell.Proofs.Supervision.Watch
/-!
What a wait says of its child, against what it asked and was told. The first poll that does not see
the child run decides, and if there is none, the clock does.
-/

set_option autoImplicit false

namespace SupervisedShell

variable {σ : Type}

def Call.IsWatching (pid : Nat) (c : Call) : Prop :=
  c = .poll pid (.ok none) ∨ (∃ t, c = .now t) ∨ ∃ d, c = .sleep d

def readings (calls : List Call) : List Instant :=
  calls.filterMap fun
    | .now t => some t
    | _ => none

def Steady (calls : List Call) : Prop := (readings calls).Pairwise fun t u => t.nanos ≤ u.nanos

@[simp] theorem readings_append (xs ys : List Call) :
    readings (xs ++ ys) = readings xs ++ readings ys := List.filterMap_append

def TimedOut (limits : Limits) (result : Except ProgramError Report) : Prop :=
  ∃ r, result = .ok r ∧ r.outcome = .timedOut limits.timeout

/-- How the calls of a wait, all of them, decide its result and the state of the handle. -/
structure Classified (limits : Limits) (h : Handle) (calls : List Call)
    (result : Except ProgramError Report) (state : Liveness) : Prop where
  known : ∀ status, h.child.status? = some status →
    ∃ t, calls = [.now t] ∧ result = .ok ⟨h.pid, t.since h.started, .ofStatus status⟩
  status : ∀ status, .poll h.pid (.ok (some status)) ∈ calls →
    ∃ pre t, calls = pre ++ [.poll h.pid (.ok (some status)), .now t] ∧
      (∀ c ∈ pre, c.IsWatching h.pid) ∧
      result = .ok ⟨h.pid, t.since h.started, .ofStatus status⟩
  lost : ∀ cause, .poll h.pid (.error cause) ∈ calls →
    ∃ pre k q, calls = pre ++ [.poll h.pid (.error cause), .kill h.pid k, .reap h.pid q] ∧
      (∀ c ∈ pre, c.IsWatching h.pid) ∧
      result = .error (.lost h.name h.pid cause) ∧ state = .lookupFailed
  timedOut_iff : TimedOut limits result ↔ h.child.status? = none ∧
    ∃ pre t post, calls = pre ++ .now t :: post ∧
      (∀ a, .poll h.pid a ∈ pre → a = .ok none) ∧
      (limits.deadline h.started).nanos ≤ t.nanos
  overdue : TimedOut limits result →
    ∃ pre t k q t', calls = pre ++ [.now t, .kill h.pid k, .reap h.pid q, .now t'] ∧
      (∀ c ∈ pre, c.IsWatching h.pid) ∧ (limits.deadline h.started).nanos ≤ t.nanos ∧
      result = .ok ⟨h.pid, t'.since h.started, .timedOut limits.timeout⟩ ∧
      (Steady calls → limits.timeout.nanos ≤ (t'.since h.started).nanos)
  decided : h.child.status? = none →
    (∃ a, a ≠ .ok none ∧ .poll h.pid a ∈ calls) ∨ TimedOut limits result
  kills : ∀ pre p k post, calls = pre ++ .kill p k :: post →
    p = h.pid ∧ ((∃ before cause, pre = before ++ [.poll h.pid (.error cause)]) ∨
      ∃ before t, pre = before ++ [.now t] ∧ (limits.deadline h.started).nanos ≤ t.nanos)

/-- An entry that the front has not got stands in the rest. -/
theorem split_behind {α : Type} {xs ys pre post : List α} {c : α}
    (split : xs ++ ys = pre ++ c :: post)
    (absent : c ∉ xs) : ∃ mid, pre = xs ++ mid ∧ ys = mid ++ c :: post := by
  rcases List.append_eq_append_iff.mp split with ⟨mid, front, rest⟩ | ⟨mid, rfl, rest⟩
  · exact ⟨mid, front, rest⟩
  · cases mid with
    | nil => exact ⟨[], by simp, by simpa using rest.symm⟩
    | cons d mid =>
      obtain ⟨rfl, -⟩ := List.cons.inj rest
      simp at absent

def Call.IsEarly (pid : Nat) (deadline : Instant) (c : Call) : Prop :=
  c = .poll pid (.ok none) ∨ (∃ t : Instant, t.nanos < deadline.nanos ∧ c = .now t) ∨
    ∃ d, c = .sleep d

theorem Call.IsEarly.isWatching {pid : Nat} {deadline : Instant} {c : Call}
    (h : c.IsEarly pid deadline) : c.IsWatching pid := by
  rcases h with rfl | ⟨t, -, rfl⟩ | ⟨d, rfl⟩
  · exact .inl rfl
  · exact .inr (.inl ⟨t, rfl⟩)
  · exact .inr (.inr ⟨d, rfl⟩)

theorem Round.isEarly {limits : Limits} {h : Handle} {rounds : List Round}
    (early : ∀ r ∈ rounds, r.Early limits h.started) {c : Call}
    (hc : c ∈ rounds.flatMap (Round.calls h.pid)) :
    c.IsEarly h.pid (limits.deadline h.started) := by
  obtain ⟨r, hr, hc⟩ := List.mem_flatMap.mp hc
  simp only [calls, List.mem_cons, List.not_mem_nil, or_false] at hc
  rcases hc with rfl | rfl | rfl
  · exact .inl rfl
  · exact .inr (.inl ⟨r.reading, (early r hr).1, rfl⟩)
  · exact .inr (.inr ⟨r.pause, rfl⟩)

theorem not_timedOut_ofStatus (limits : Limits) (pid : Nat) (d : Duration) (status : WaitStatus) :
    ¬ TimedOut limits (.ok ⟨pid, d, .ofStatus status⟩) := by
  rintro ⟨r, same, timedOut⟩
  cases same
  cases status <;> simp [Outcome.ofStatus] at timedOut

theorem not_timedOut_error (limits : Limits) (e : ProgramError) :
    ¬ TimedOut limits (.error e) := by
  rintro ⟨r, same, -⟩
  cases same

def Ending.seen : Ending → Except IoError (Option WaitStatus)
  | gone status _ => .ok (some status)
  | lost cause _ _ => .error cause
  | overdue .. => .ok none

section
variable {limits : Limits} {h : Handle} {xs : List Call}

/-- Behind a poll that did not see the child run, a reading past the deadline says nothing. -/
theorem no_overdue_reading {ys : List Call} {a : Except IoError (Option WaitStatus)}
    {deadline : Instant} (early : ∀ c ∈ xs, c.IsEarly h.pid deadline) (other : a ≠ .ok none) :
    ¬ ∃ pre t post, xs ++ .poll h.pid a :: ys = pre ++ .now t :: post ∧
      (∀ a, .poll h.pid a ∈ pre → a = .ok none) ∧ deadline.nanos ≤ t.nanos := by
  rintro ⟨pre, t, post, split, running, late⟩
  -- A late reading is not among the early calls, so the poll stands before it.
  have absent : Call.now t ∉ xs := by
    intro inside
    have before := early _ inside
    simp only [Call.IsEarly, reduceCtorEq, Call.now.injEq, exists_eq_right', false_or, exists_false,
      or_false] at before
    omega
  obtain ⟨mid, rfl, rest⟩ := split_behind split absent
  cases mid with
  | nil => simp at rest
  | cons c mid =>
    obtain ⟨rfl, -⟩ := List.cons.inj rest
    exact other (running a (by simp))

theorem poll_early {deadline : Instant} {a : Except IoError (Option WaitStatus)}
    (early : ∀ c ∈ xs, c.IsEarly h.pid deadline) (inside : .poll h.pid a ∈ xs) :
    a = .ok none := by
  simpa [Call.IsEarly] using early _ inside

theorem poll_of_watch {deadline : Instant} {a : Except IoError (Option WaitStatus)} {e : Ending}
    (early : ∀ c ∈ xs, c.IsEarly h.pid deadline)
    (asked : .poll h.pid a ∈ xs ++ e.calls h.pid) :
    a = .ok none ∨ a = e.seen := by
  rcases List.mem_append.mp asked with inside | last
  · exact .inl (poll_early early inside)
  · cases e <;> exact .inr (by simpa [Ending.calls, Ending.seen] using last)

theorem kill_early {deadline : Instant} {p : Nat} {k : Except IoError Unit}
    (early : ∀ c ∈ xs, c.IsEarly h.pid deadline) : .kill p k ∉ xs := by
  intro inside
  simpa [Call.IsEarly] using early _ inside

theorem Classified.of_gone (unknown : h.child.status? = none) (status : WaitStatus)
    (reported : Instant) (early : ∀ c ∈ xs, c.IsEarly h.pid (limits.deadline h.started)) :
    let e := Ending.gone status reported
    Classified limits h (xs ++ e.calls h.pid) (e.result limits h) (e.after limits h).state where
  known := by simp [unknown]
  status := by
    intro status' seen
    obtain rfl : status' = status := by simpa [Ending.seen] using poll_of_watch early seen
    exact ⟨xs, reported, rfl, fun c hc => (early c hc).isWatching, rfl⟩
  lost := by
    intro cause seen
    simpa [Ending.seen] using poll_of_watch early seen
  timedOut_iff := by
    refine ⟨fun timedOut => (not_timedOut_ofStatus _ _ _ _ timedOut).elim, ?_⟩
    rintro ⟨-, overdue⟩
    exact absurd overdue (no_overdue_reading early (by simp))
  overdue timedOut := (not_timedOut_ofStatus _ _ _ _ timedOut).elim
  decided _ := .inl ⟨.ok (some status), by simp, by simp [Ending.calls]⟩
  kills := by
    intro pre p k post split
    obtain ⟨mid, -, rest⟩ := split_behind split (kill_early early)
    simp [Ending.calls, List.cons_eq_append_iff] at rest

theorem Classified.of_lost (unknown : h.child.status? = none) (cause : IoError)
    (k : Except IoError Unit) (q : Except IoError WaitStatus)
    (early : ∀ c ∈ xs, c.IsEarly h.pid (limits.deadline h.started)) :
    let e := Ending.lost cause k q
    Classified limits h (xs ++ e.calls h.pid) (e.result limits h) (e.after limits h).state where
  known := by simp [unknown]
  status := by
    intro status seen
    simpa [Ending.seen] using poll_of_watch early seen
  lost := by
    intro cause' seen
    obtain rfl : cause' = cause := by simpa [Ending.seen] using poll_of_watch early seen
    exact ⟨xs, k, q, rfl, fun c hc => (early c hc).isWatching, rfl, rfl⟩
  timedOut_iff := by
    refine ⟨fun timedOut => (not_timedOut_error _ _ timedOut).elim, ?_⟩
    rintro ⟨-, overdue⟩
    exact absurd overdue (no_overdue_reading early (by simp))
  overdue timedOut := (not_timedOut_error _ _ timedOut).elim
  decided _ := .inl ⟨.error cause, by simp, by simp [Ending.calls]⟩
  kills := by
    intro pre p k' post split
    obtain ⟨mid, rfl, rest⟩ := split_behind split (kill_early early)
    rcases mid with _ | ⟨c, _ | ⟨d, mid⟩⟩
    · simp [Ending.calls] at rest
    · simp only [Ending.calls, List.cons_append, List.nil_append, List.cons.injEq, Call.kill.injEq]
        at rest
      obtain ⟨rfl, ⟨rfl, -⟩, -⟩ := rest
      exact ⟨rfl, .inl ⟨xs, cause, rfl⟩⟩
    · simp [Ending.calls, List.cons_eq_append_iff] at rest

theorem Classified.of_overdue (unknown : h.child.status? = none) {reading reported : Instant}
    (k : Except IoError Unit) (q : Except IoError WaitStatus)
    (early : ∀ c ∈ xs, c.IsEarly h.pid (limits.deadline h.started))
    (due : (limits.deadline h.started).nanos ≤ reading.nanos) :
    let e := Ending.overdue reading k q reported
    Classified limits h (xs ++ e.calls h.pid) (e.result limits h) (e.after limits h).state where
  known := by simp [unknown]
  status := by
    intro status seen
    simpa [Ending.seen] using poll_of_watch early seen
  lost := by
    intro cause seen
    simpa [Ending.seen] using poll_of_watch early seen
  timedOut_iff := by
    let rest : List Call := [.kill h.pid k, .reap h.pid q, .now reported]
    refine ⟨fun _ => ⟨unknown, xs ++ [.poll h.pid (.ok none)], reading, rest, ?_, ?_, due⟩,
      ?_⟩
    · exact (List.append_assoc xs [_] _).symm
    · intro a seen
      rcases List.mem_append.mp seen with inside | last
      · exact poll_early early inside
      · simpa using last
    · intro _
      exact ⟨_, rfl, rfl⟩
  overdue := by
    intro _
    refine ⟨xs ++ [.poll h.pid (.ok none)], reading, k, q, reported, ?_, ?_, due, rfl, ?_⟩
    · exact (List.append_assoc xs [_] _).symm
    · intro c hc
      rcases List.mem_append.mp hc with inside | last
      · exact (early c inside).isWatching
      · exact .inl (by simpa using last)
    · intro steady
      have order : reading.nanos ≤ reported.nanos := by
        have both := (List.pairwise_append.mp (by simpa [Steady] using steady)).2.1
        simpa [readings, Ending.calls] using both
      simp only [Limits.deadline, Instant.after] at due
      simp only [Instant.since]
      omega
  decided _ := .inr ⟨_, rfl, rfl⟩
  kills := by
    intro pre p k' post split
    obtain ⟨mid, rfl, rest⟩ := split_behind split (kill_early early)
    rcases mid with _ | ⟨c, _ | ⟨d, _ | ⟨_, mid⟩⟩⟩
    · simp [Ending.calls] at rest
    · simp [Ending.calls] at rest
    · simp only [Ending.calls, List.cons_append, List.nil_append, List.cons.injEq, Call.kill.injEq]
        at rest
      obtain ⟨rfl, rfl, ⟨rfl, -⟩, -⟩ := rest
      exact ⟨rfl, .inr ⟨xs ++ [.poll h.pid (.ok none)], reading, by simp, due⟩⟩
    · simp [Ending.calls, List.cons_eq_append_iff] at rest

theorem Classified.of_known {status : WaitStatus} (known : h.child.status? = some status)
    (t : Instant) :
    Classified limits h [.now t] (.ok ⟨h.pid, t.since h.started, .ofStatus status⟩)
      (.finished (.ofStatus status)) where
  known := by
    intro status' known'
    cases known.symm.trans known'
    exact ⟨t, rfl, rfl⟩
  status := by simp
  lost := by simp
  timedOut_iff := by
    refine ⟨fun timedOut => (not_timedOut_ofStatus _ _ _ _ timedOut).elim, ?_⟩
    rintro ⟨unknown, -⟩
    simp [known] at unknown
  overdue timedOut := (not_timedOut_ofStatus _ _ _ _ timedOut).elim
  decided := by simp [known]
  kills := by simp [List.cons_eq_append_iff]

end

/-- Every wait is classified, for any limits, handle and answers. To record it changes nothing. -/
theorem Handle.wait_classified (sys : System σ) (limits : Limits) (h : Handle) (s : σ) :
    let (result, w) := h.wait sys.traced limits (.start s)
    h.wait sys limits s = (result, w.world) ∧
      Classified limits h w.calls result (h.watch sys.traced limits (.start s)).2.1.state := by
  simp only [wait_eq_watch]
  cases known : h.child.status? with
  | some status =>
    simp only [watch_of_known sys limits known, watch_of_known sys.traced limits known]
    exact ⟨rfl, .of_known known _⟩
  | none =>
    obtain ⟨rounds, e, s', early, due, plain, traced⟩ :=
      watch_traced sys limits known (.start s)
    have plain : h.watch sys limits s = _ := plain
    simp only [plain, traced]
    refine ⟨trivial, ?_⟩
    have early (c : Call) (hc : c ∈ rounds.flatMap (Round.calls h.pid)) :=
      Round.isEarly early hc
    cases e with
    | gone status reported => exact .of_gone known status reported early
    | lost cause k q => exact .of_lost known cause k q early
    | overdue reading k q reported => exact .of_overdue known k q early due

/-- A child that runs on is killed as soon as its time is up. -/
example :
    (Handle.wait Rehearsal.system ⟨⟨5⟩, ⟨2⟩⟩ ⟨"sleep", .ofPid 1, ⟨0⟩, .running⟩
    ⟨[.ok none], .ok (), .ok (.signaled 9 false), ⟨0⟩⟩).1 =
      .ok ⟨1, ⟨5⟩, .timedOut ⟨5⟩⟩ := by cbv

end SupervisedShell
