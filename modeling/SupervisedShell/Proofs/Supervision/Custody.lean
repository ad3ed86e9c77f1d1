import SupervisedShell.Proofs.Supervision.Watch

set_option autoImplicit false

namespace SupervisedShell

variable {σ : Type}

def Settled (pid : Nat) (calls : List Call) : Prop := Collected pid calls ∨ Refused pid calls

theorem Settled.append_left {pid : Nat} {ys : List Call} (xs : List Call) (h : Settled pid ys) :
    Settled pid (xs ++ ys) :=
  h.imp (fun c => collected_append.mpr (.inr c)) (Refused.append_left xs)

theorem Settled.append_right {pid : Nat} {xs : List Call} (ys : List Call) (h : Settled pid xs) :
    Settled pid (xs ++ ys) :=
  h.imp (fun c => collected_append.mpr (.inl c)) (Refused.append_right ys)

theorem Settled.kill_reap (pid : Nat) (k : Except IoError Unit) (q : Except IoError WaitStatus) :
    Settled pid [.kill pid k, .reap pid q] := by
  cases q with
  | ok status => exact .inl ⟨.reap pid (.ok status), by simp, by simp [Call.collects]⟩
  | error e => exact .inr ⟨[], k, e, [], rfl⟩

theorem Sight.orderly (pid : Nat) (v : Sight) : Orderly pid (v.calls pid) := by
  cases v with
  | running => exact .of_mild (by simp [calls, Call.mild])
  | gone status => exact .of_mild (by simp [calls, Call.mild])
  | lost e k q =>
    have seen : Orderly pid [.poll pid (.error e)] := .of_mild (by simp [Call.mild])
    exact seen.append (.kill_reap pid k q) (by simp [Collected, Call.collects])

theorem Sight.collected_iff {h : Handle} (unknown : h.child.status? = none) (v : Sight) :
    Collected h.pid (v.calls h.pid) ↔ (v.after h).child.status?.isSome := by
  cases v with
  | running => simp [Collected, calls, Call.collects, after, unknown]
  | gone status => simp [Collected, calls, Call.collects, after, Handle.answered, Except.toOption]
  | lost e k q =>
    cases q <;> simp [Collected, calls, Call.collects, after, Handle.answered, Except.toOption]

theorem Round.quiet {pid : Nat} {rounds : List Round} {c : Call}
    (hc : c ∈ rounds.flatMap (Round.calls pid)) : c.mild pid ∧ ¬ c.collects pid := by
  obtain ⟨r, -, hc⟩ := List.mem_flatMap.mp hc
  simp only [calls, List.mem_cons, List.not_mem_nil, or_false] at hc
  rcases hc with rfl | rfl | rfl <;> simp [Call.mild, Call.collects]

theorem Ending.orderly (pid : Nat) (e : Ending) : Orderly pid (e.calls pid) := by
  cases e with
  | gone status reported => exact .of_mild (by simp [calls, Call.mild])
  | lost cause k q => exact Sight.orderly pid (.lost cause k q)
  | overdue reading k q reported =>
    have seen : Orderly pid [.poll pid (.ok none), .now reading] := .of_mild (by simp [Call.mild])
    have told : Orderly pid [.now reported] := .of_mild (by simp [Call.mild])
    refine (seen.append (.kill_reap pid k q) ?_).append told ?_
    · simp [Collected, Call.collects]
    · simp [Call.kills]

theorem Ending.collected_iff (limits : Limits) (h : Handle) (e : Ending) :
    Collected h.pid (e.calls h.pid) ↔ (e.after limits h).child.status?.isSome := by
  cases e with
  | gone status reported =>
    simp [Collected, calls, Call.collects, after, Handle.answered, Except.toOption]
  | lost cause k q =>
    cases q <;> simp [Collected, calls, Call.collects, after, Handle.answered, Except.toOption]
  | overdue reading k q reported =>
    cases q <;> simp [Collected, calls, Call.collects, after, Handle.answered, Except.toOption]

theorem Ending.settled (pid : Nat) (e : Ending) : Settled pid (e.calls pid) := by
  cases e with
  | gone status reported =>
    exact .inl ⟨.poll pid (.ok (some status)), by simp [calls], by simp [Call.collects]⟩
  | lost cause k q => exact (Settled.kill_reap pid k q).append_left [.poll pid (.error cause)]
  | overdue reading k q reported =>
    exact ((Settled.kill_reap pid k q).append_left
      [.poll pid (.ok none), .now reading]).append_right
      [.now reported]

/-- What the state of a handle says about the calls so far. -/
structure Custody (h : Handle) (calls : List Call) : Prop where
  orderly : Orderly h.pid calls
  memory : Collected h.pid calls ↔ h.child.status?.isSome
  running : h.state = .running → h.child.status? = none
  settled : h.state ≠ .running → Settled h.pid calls

namespace Custody

section
variable {h : Handle} {calls ys : List Call} (c : Custody h calls)
  (unknown : h.child.status? = none)
include c unknown

theorem not_collected : ¬ Collected h.pid calls := by simp [c.memory, unknown]

/-- Nothing was brought home before, so what follows may still kill. -/
theorem orderly_append (orderly : Orderly h.pid ys) : Orderly h.pid (calls ++ ys) :=
  c.orderly.append orderly fun done => absurd done (c.not_collected unknown)

theorem extend {h' : Handle} (same : h'.pid = h.pid) (orderly : Orderly h.pid ys)
    (memory : Collected h.pid ys ↔ h'.child.status?.isSome)
    (running : h'.state = .running → h'.child.status? = none)
    (settled : h'.state ≠ .running → Settled h.pid (calls ++ ys)) :
    Custody h' (calls ++ ys) := by
  refine ⟨?_, ?_, running, ?_⟩
  · rw [same]
    exact c.orderly_append unknown orderly
  · rw [same, collected_append, memory]
    simp [c.not_collected unknown]
  · rwa [same]

end

theorem poll (sys : System σ) {h : Handle} {w : Traced σ} (c : Custody h w.calls) :
    Custody (h.poll sys.traced w).2.1 (h.poll sys.traced w).2.2.calls := by
  cases known : h.child.status? with
  | some status =>
    rw [Handle.poll_of_known sys.traced known]
    exact ⟨c.orderly, c.memory, by simp, fun _ => .inl (c.memory.mpr (by simp [known]))⟩
  | none =>
    obtain ⟨v, s, -, traced⟩ := Handle.poll_traced sys known w
    rw [traced]
    refine c.extend known (v.pid_after h) (v.orderly h.pid) (v.collected_iff known) ?_ ?_
    · intro running
      cases v with
      | running => exact known
      | gone status => simp [Sight.after] at running
      | lost e k q => simp [Sight.after] at running
    · intro done
      cases v with
      | running => exact (c.settled done).append_right _
      | gone status =>
        have home : Collected h.pid [.poll h.pid (.ok (some status))] := by
          simp [Collected, Call.collects]
        exact .inl (collected_append.mpr (.inr home))
      | lost e k q =>
        exact ((Settled.kill_reap h.pid k q).append_left [.poll h.pid (.error e)]).append_left
          w.calls

theorem watch (sys : System σ) (limits : Limits) {h : Handle} {w : Traced σ}
    (c : Custody h w.calls) :
    Custody (h.watch sys.traced limits w).2.1 (h.watch sys.traced limits w).2.2.calls := by
  cases known : h.child.status? with
  | some status =>
    rw [Handle.watch_of_known sys.traced limits known]
    have home : Collected h.pid w.calls := c.memory.mpr (by simp [known])
    have told : Orderly h.pid [.now (sys.now w.world).1] := .of_mild (by simp [Call.mild])
    refine ⟨?_, ?_, by simp, ?_⟩
    · exact c.orderly.append told (by simp [Call.kills])
    · exact ⟨fun _ => by simp [known], fun _ => collected_append.mpr (.inl home)⟩
    · intro _
      exact .inl (collected_append.mpr (.inl home))
  | none =>
    obtain ⟨rounds, e, s, -, -, -, traced⟩ := Handle.watch_traced sys limits known w
    -- The rounds neither kill nor collect, so all depends on the ending.
    have quiet : ¬ Collected h.pid (rounds.flatMap (Round.calls h.pid)) := by
      rintro ⟨d, hd, home⟩
      exact (Round.quiet hd).2 home
    have orderly : Orderly h.pid (rounds.flatMap (Round.calls h.pid) ++ e.calls h.pid) := by
      refine Orderly.append (.of_mild fun d hd => (Round.quiet hd).1) (e.orderly h.pid) ?_
      intro done
      exact absurd done quiet
    rw [traced]
    refine c.extend known (e.pid_after limits h) orderly ?_ ?_ ?_
    · rw [collected_append, e.collected_iff limits h]
      simp [quiet]
    · intro running
      cases e <;> simp [Ending.after] at running
    · intro _
      exact ((e.settled h.pid).append_left _).append_left _

/-- With the handle gone, all that can be done for the child was done. -/
theorem drop (sys : System σ) {h : Handle} {w : Traced σ} (c : Custody h w.calls) :
    Settled h.pid (h.drop sys.traced w).calls ∧ Orderly h.pid (h.drop sys.traced w).calls := by
  by_cases running : h.state = .running
  · obtain ⟨k, q, s, traced⟩ := Handle.drop_running_traced sys running (c.running running) w
    rw [traced]
    refine ⟨(Settled.kill_reap h.pid k q).append_left _, ?_⟩
    exact c.orderly_append (c.running running) (.kill_reap h.pid k q)
  · rw [Handle.drop_of_not_running sys.traced running]
    exact ⟨c.settled running, c.orderly⟩

theorem spawn {sys : System σ} {l : Launch} {s : σ} {h : Handle} {w : Traced σ}
    (spawned : Handle.spawn sys.traced l (.start s) = (.ok h, w)) : Custody h w.calls := by
  obtain ⟨pid, started, rfl, calls⟩ := Handle.spawn_traced spawned
  have calls : w.calls = [.spawn l (.ok pid), .now started] := calls
  rw [calls]
  exact ⟨.of_mild (by simp [Call.mild]), by simp [Collected, Call.collects, Child.ofPid],
    fun _ => rfl, fun done => absurd rfl done⟩

end Custody

end SupervisedShell
