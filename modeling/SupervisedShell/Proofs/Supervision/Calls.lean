import SupervisedShell.Supervisor.Handle

set_option autoImplicit false

namespace SupervisedShell

variable {σ α : Type}

inductive Call where
  | facts (path : Bytes) (answer : Option FileFacts)
  | spawn (l : Launch) (answer : Except IoError Nat)
  | poll (pid : Nat) (answer : Except IoError (Option WaitStatus))
  | kill (pid : Nat) (answer : Except IoError Unit)
  | reap (pid : Nat) (answer : Except IoError WaitStatus)
  | now (reading : Instant)
  | sleep (d : Duration)

namespace Call

def collects (pid : Nat) : Call → Bool
  | poll p (.ok (some _)) => p = pid
  | reap p (.ok _) => p = pid
  | _ => false

def kills (pid : Nat) : Call → Bool
  | kill p _ => p = pid
  | _ => false

end Call

structure Traced (σ : Type) where
  world : σ
  calls : List Call

namespace Traced

def start (s : σ) : Traced σ := ⟨s, []⟩

def ask (f : σ → α × σ) (c : α → Call) (w : Traced σ) : α × Traced σ :=
  ((f w.world).1, ⟨(f w.world).2, w.calls ++ [c (f w.world).1]⟩)

end Traced

def System.traced (sys : System σ) : System (Traced σ) where
  facts path := Traced.ask (sys.facts path) (.facts path)
  spawn l := Traced.ask (sys.spawn l) (.spawn l)
  poll pid := Traced.ask (sys.poll pid) (.poll pid)
  kill pid := Traced.ask (sys.kill pid) (.kill pid)
  reap pid := Traced.ask (sys.reap pid) (.reap pid)
  now := Traced.ask sys.now .now
  sleep d w := ⟨sys.sleep d w.world, w.calls ++ [.sleep d]⟩
  log r w := ⟨sys.log r w.world, w.calls⟩
  readings moment w := sys.readings moment w.world
  readings_log moment r w := sys.readings_log moment r w.world
  readings_lt pid moment d w w' := sys.readings_lt pid moment d w.world w'.world

section
variable (sys : System σ) (w : Traced σ)

@[simp] theorem System.traced_spawn (l : Launch) : sys.traced.spawn l w =
    ((sys.spawn l w.world).1,
      ⟨(sys.spawn l w.world).2, w.calls ++ [.spawn l (sys.spawn l w.world).1]⟩) :=
  rfl

@[simp] theorem System.traced_poll (pid : Nat) : sys.traced.poll pid w =
    ((sys.poll pid w.world).1,
      ⟨(sys.poll pid w.world).2, w.calls ++ [.poll pid (sys.poll pid w.world).1]⟩) :=
  rfl

@[simp] theorem System.traced_kill (pid : Nat) : sys.traced.kill pid w =
    ((sys.kill pid w.world).1,
      ⟨(sys.kill pid w.world).2, w.calls ++ [.kill pid (sys.kill pid w.world).1]⟩) :=
  rfl

@[simp] theorem System.traced_reap (pid : Nat) : sys.traced.reap pid w =
    ((sys.reap pid w.world).1,
      ⟨(sys.reap pid w.world).2, w.calls ++ [.reap pid (sys.reap pid w.world).1]⟩) :=
  rfl

@[simp] theorem System.traced_now : sys.traced.now w =
    ((sys.now w.world).1, ⟨(sys.now w.world).2, w.calls ++ [.now (sys.now w.world).1]⟩) :=
  rfl

@[simp] theorem System.traced_sleep (d : Duration) :
    sys.traced.sleep d w = ⟨sys.sleep d w.world, w.calls ++ [.sleep d]⟩ := rfl

@[simp] theorem System.traced_log (r : Log.Record) :
    sys.traced.log r w = ⟨sys.log r w.world, w.calls⟩ := rfl

end

/-- The order that the calls about a child keep: no kill behind its status, and no wait but right
behind a kill. -/
structure Orderly (pid : Nat) (calls : List Call) : Prop where
  kills : calls.Pairwise fun c d => c.collects pid → ¬ d.kills pid
  reaps : ∀ pre q post, calls = pre ++ .reap pid q :: post →
    ∃ before k, pre = before ++ [.kill pid k]

def Refused (pid : Nat) (calls : List Call) : Prop :=
  ∃ pre k e post, calls = pre ++ .kill pid k :: .reap pid (.error e) :: post

def Collected (pid : Nat) (calls : List Call) : Prop := ∃ c ∈ calls, c.collects pid

theorem collected_append {pid : Nat} {xs ys : List Call} :
    Collected pid (xs ++ ys) ↔ Collected pid xs ∨ Collected pid ys := by
  simp only [Collected, List.mem_append, or_and_right, exists_or]

theorem Orderly.append {pid : Nat} {xs ys : List Call} (hx : Orderly pid xs) (hy : Orderly pid ys)
    (done : Collected pid xs → ∀ d ∈ ys, ¬ d.kills pid) : Orderly pid (xs ++ ys) := by
  refine ⟨List.pairwise_append.mpr ⟨hx.kills, hy.kills, ?_⟩, ?_⟩
  · intro c hc d hd known
    exact done ⟨c, hc, known⟩ d hd
  · intro pre q post split
    rcases List.append_eq_append_iff.mp split with ⟨mid, rfl, rest⟩ | ⟨mid, rfl, rest⟩
    · obtain ⟨before, k, rfl⟩ := hy.reaps mid q post rest
      exact ⟨xs ++ before, k, by simp⟩
    · cases mid with
      | nil =>
        obtain ⟨before, k, none⟩ := hy.reaps [] q post rest.symm
        simp at none
      | cons c mid =>
        obtain ⟨rfl, -⟩ := List.cons.inj rest
        exact hx.reaps pre q mid rfl

def Call.mild (pid : Nat) : Call → Bool
  | kill p _ | reap p _ => p ≠ pid
  | _ => true

theorem Call.not_kills_of_mild {pid : Nat} {c : Call} (h : c.mild pid) : ¬ c.kills pid := by
  cases c <;> simp_all [mild, kills]

theorem Orderly.of_mild {pid : Nat} {calls : List Call} (h : ∀ c ∈ calls, c.mild pid) :
    Orderly pid calls := by
  refine ⟨List.pairwise_of_forall_mem_list ?_, ?_⟩
  · intro c _ d hd _
    exact Call.not_kills_of_mild (h d hd)
  · intro pre q post split
    have wait := h (.reap pid q) (by simp [split])
    simp [Call.mild] at wait

theorem Orderly.kill_reap (pid : Nat) (k : Except IoError Unit) (q : Except IoError WaitStatus) :
    Orderly pid [.kill pid k, .reap pid q] := by
  refine ⟨by simp [Call.collects, Call.kills], ?_⟩
  intro pre q' post split
  match pre with
  | [] => simp at split
  | [c] => exact ⟨[], k, by simp_all⟩
  | _ :: _ :: _ => simp at split

theorem Refused.append_left {pid : Nat} {ys : List Call} (xs : List Call) (h : Refused pid ys) :
    Refused pid (xs ++ ys) := by
  obtain ⟨pre, k, e, post, rfl⟩ := h
  exact ⟨xs ++ pre, k, e, post, by simp⟩

theorem Refused.append_right {pid : Nat} {xs : List Call} (ys : List Call) (h : Refused pid xs) :
    Refused pid (xs ++ ys) := by
  obtain ⟨pre, k, e, post, rfl⟩ := h
  exact ⟨pre, k, e, post ++ ys, by simp⟩

/-- A system that answers polls in turn from a list, the others always alike. With the list used up
the child runs on. Its clock moves while it sleeps. -/
structure Rehearsal where
  polls : List (Except IoError (Option WaitStatus))
  killed : Except IoError Unit
  reaped : Except IoError WaitStatus
  clock : Instant

namespace Rehearsal

def poll (r : Rehearsal) : Except IoError (Option WaitStatus) × Rehearsal :=
  match r.polls with
  | [] => (.ok none, r)
  | a :: rest => (a, { r with polls := rest })

def sleep (d : Duration) (r : Rehearsal) : Rehearsal :=
  { r with clock := r.clock.after (d.longer ⟨1⟩) }

theorem clock_poll (r : Rehearsal) : r.poll.2.clock = r.clock := by
  unfold poll
  split <;> rfl

def system : System Rehearsal where
  facts _ r := (none, r)
  spawn _ r := (.ok 1, r)
  poll _ := poll
  kill _ r := (r.killed, r)
  reap _ r := (r.reaped, r)
  now r := (r.clock, r)
  sleep := sleep
  log _ r := r
  readings moment r := moment.nanos - r.clock.nanos
  readings_log _ _ _ := Nat.le_refl _
  readings_lt _ moment d r r' early between := by
    simp only [clock_poll] at early between
    simp only [sleep, Instant.after, Duration.longer]
    omega

end Rehearsal

end SupervisedShell
