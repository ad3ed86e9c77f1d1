import SupervisedShell.External
import SupervisedShell.Proofs.Supervision.Watch

set_option autoImplicit false

namespace SupervisedShell

variable {σ τ α : Type}

def Alike (R : σ → τ → Prop) (x : α × σ) (y : α × τ) : Prop := x.1 = y.1 ∧ R x.2 y.2

theorem Alike.split {R : σ → τ → Prop} {x : α × σ} {y : α × τ} (h : Alike R x y) :
    ∃ v s t, x = (v, s) ∧ y = (v, t) ∧ R s t := by
  obtain ⟨v, s⟩ := x
  obtain ⟨u, t⟩ := y
  obtain ⟨rfl, r⟩ : v = u ∧ R s t := h
  exact ⟨v, s, t, rfl, rfl, r⟩

structure System.Like (a : System σ) (b : System τ) (R : σ → τ → Prop) : Prop where
  facts : ∀ path s t, R s t → Alike R (a.facts path s) (b.facts path t)
  spawn : ∀ l s t, R s t → Alike R (a.spawn l s) (b.spawn l t)
  poll : ∀ pid s t, R s t → Alike R (a.poll pid s) (b.poll pid t)
  kill : ∀ pid s t, R s t → Alike R (a.kill pid s) (b.kill pid t)
  reap : ∀ pid s t, R s t → Alike R (a.reap pid s) (b.reap pid t)
  now : ∀ s t, R s t → Alike R (a.now s) (b.now t)
  sleep : ∀ d s t, R s t → R (a.sleep d s) (b.sleep d t)
  log : ∀ record s t, R s t → R (a.log record s) (b.log record t)

section
variable {a : System σ} {b : System τ} {R : σ → τ → Prop} (like : a.Like b R)
  {s : σ} {t : τ}
include like

theorem Child.poll_alike (c : Child) (r : R s t) : Alike (Alike R) (c.poll a s) (c.poll b t) := by
  cases known : c.status? with
  | some status => simp [Child.poll, known, Alike, r]
  | none =>
    obtain ⟨v, s', t', onA, onB, r'⟩ := (like.poll c.pid s t r).split
    rcases v with e | _ | status <;> simp [Child.poll, known, onA, onB, Alike, r']

theorem Child.kill_alike (c : Child) (r : R s t) : Alike R (c.kill a s) (c.kill b t) := by
  cases known : c.status? with
  | some status => simp [Child.kill, known, Alike, r]
  | none =>
    have asked := like.kill c.pid s t r
    simpa [Child.kill, known] using asked

theorem Child.reap_alike (c : Child) (r : R s t) : Alike (Alike R) (c.reap a s) (c.reap b t) := by
  cases known : c.status? with
  | some status => simp [Child.reap, known, Alike, r]
  | none =>
    obtain ⟨v, s', t', onA, onB, r'⟩ := (like.reap c.pid s t r).split
    cases v <;> simp [Child.reap, known, onA, onB, Alike, r']

namespace Handle

theorem spawn_alike (l : Launch) (r : R s t) : Alike R (spawn a l s) (spawn b l t) := by
  by_cases nul : l.hasNul
  · simp [spawn, nul, Alike, r]
  · obtain ⟨v, s₁, t₁, onA, onB, r₁⟩ := (like.spawn l s t r).split
    cases v with
    | error e => simp [spawn, nul, onA, onB, Alike, r₁]
    | ok pid =>
      have told := like.log (.spawned l.name l.program pid) s₁ t₁ r₁
      obtain ⟨started, s₂, t₂, nowA, nowB, r₂⟩ := (like.now _ _ told).split
      simp [spawn, nul, onA, onB, nowA, nowB, Alike, r₂]

theorem killAndReap_alike (h : Handle) (r : R s t) :
    Alike R (h.killAndReap a s) (h.killAndReap b t) := by
  obtain ⟨k, s₁, t₁, killA, killB, r₁⟩ := (h.child.kill_alike like r).split
  -- A kill that failed is logged before the wait.
  have reaped {s t} (r : R s t) :
      ∃ q child s' t', h.child.reap a s = (q, child, s') ∧ h.child.reap b t = (q, child, t') ∧
        R s' t' := by
    obtain ⟨q, ⟨child, s'⟩, ⟨-, t'⟩, reapA, reapB, rfl, r'⟩ :=
      (h.child.reap_alike like r).split
    exact ⟨q, child, s', t', reapA, reapB, r'⟩
  cases k with
  | ok _ =>
    obtain ⟨q, child, s₂, t₂, reapA, reapB, r₂⟩ := reaped r₁
    cases q <;> simp only [killAndReap, killA, killB, reapA, reapB] <;>
      exact ⟨rfl, like.log _ _ _ r₂⟩
  | error e =>
    obtain ⟨q, child, s₂, t₂, reapA, reapB, r₂⟩ :=
      reaped (like.log (.killFailed h.pid e) _ _ r₁)
    cases q <;> simp only [killAndReap, killA, killB, reapA, reapB] <;>
      exact ⟨rfl, like.log _ _ _ r₂⟩

theorem poll_alike (h : Handle) (r : R s t) : Alike (Alike R) (h.poll a s) (h.poll b t) := by
  obtain ⟨v, ⟨child, s₁⟩, ⟨-, t₁⟩, onA, onB, rfl, r₁⟩ :=
    (h.child.poll_alike like r).split
  have r₁ : R s₁ t₁ := r₁
  rcases v with e | _ | status
  · have told := like.log (.queryFailed h.name h.pid e) s₁ t₁ r₁
    obtain ⟨h', s₂, t₂, killA, killB, r₂⟩ := (killAndReap_alike like
      { h with child := child, state := .lookupFailed } told).split
    simp [poll, onA, onB, killA, killB, Alike, r₂]
  · simp [poll, onA, onB, Alike, r₁]
  · simp [poll, onA, onB, Alike, r₁]

theorem report_alike (h : Handle) (o : Outcome) (r : R s t) :
    Alike R (h.report a o s) (h.report b o t) := by
  obtain ⟨now, s₁, t₁, onA, onB, r₁⟩ := (like.now s t r).split
  simp only [report, onA, onB]
  exact ⟨rfl, like.log _ _ _ r₁⟩

theorem expire_alike (limits : Limits) (h : Handle) (r : R s t) :
    Alike (Alike R) (h.expire a limits s) (h.expire b limits t) := by
  have told := like.log (.overdue h.name h.pid limits.timeout) s t r
  obtain ⟨h', s₁, t₁, killA, killB, r₁⟩ := (h.killAndReap_alike like told).split
  obtain ⟨report, s₂, t₂, reportA, reportB, r₂⟩ := (report_alike like
    { h' with state := .finished (.timedOut limits.timeout) } (.timedOut limits.timeout) r₁).split
  simp [expire, killA, killB, reportA, reportB, Alike, r₂]

theorem watch_alike (limits : Limits) (h : Handle) (r : R s t) :
    Alike (Alike R) (h.watch a limits s) (h.watch b limits t) := by
  -- The second system goes the same rounds, so the bound of the first one serves for both.
  generalize bound : a.readings (limits.deadline h.started) s = n
  induction n using Nat.strongRecOn generalizing s t with
  | ind n ih =>
    obtain ⟨v, ⟨h', s₁⟩, ⟨-, t₁⟩, seenA, seenB, rfl, r₁⟩ :=
      (h.poll_alike like r).split
    have r₁ : R s₁ t₁ := r₁
    rcases v with e | _ | o
    · rw [watch_of_error seenA, watch_of_error seenB]
      exact ⟨rfl, rfl, r₁⟩
    · obtain ⟨now, s₂, t₂, nowA, nowB, r₂⟩ := (like.now s₁ t₁ r₁).split
      rw [watch_of_running seenA, watch_of_running seenB]
      simp only [nowA, nowB]
      by_cases late : (limits.deadline h.started).nanos ≤ now.nanos
      · obtain ⟨report, endA, endB, expireA, expireB, r₃⟩ :=
          (h.expire_alike like limits r₂).split
        simp only [late, if_true, expireA, expireB]
        exact ⟨rfl, r₃⟩
      · obtain ⟨-, rfl⟩ := poll_running seenA
        have fewer := a.readings_lt h.pid (limits.deadline h.started) (limits.pause h.started now) s
          (a.log (.stillRunning h.pid) s₂)
        simp only [nowA, bound] at fewer
        simp only [late, if_false]
        have told := like.log (.stillRunning h.pid) s₂ t₂ r₂
        exact ih _ (fewer (Nat.lt_of_not_le late) (a.readings_log _ _ _))
          (like.sleep _ _ _ told) rfl
    · obtain ⟨report, s₂, t₂, reportA, reportB, r₂⟩ :=
        (h'.report_alike like o r₁).split
      rw [watch_of_outcome seenA, watch_of_outcome seenB, reportA, reportB]
      exact ⟨rfl, rfl, r₂⟩

theorem drop_alike (h : Handle) (r : R s t) : R (h.drop a s) (h.drop b t) := by
  by_cases running : h.state = .running
  · simpa [drop, running] using (h.killAndReap_alike like r).2
  · simpa [drop, running] using r

theorem wait_alike (limits : Limits) (h : Handle) (r : R s t) :
    Alike R (h.wait a limits s) (h.wait b limits t) := by
  obtain ⟨v, ⟨h', s₁⟩, ⟨-, t₁⟩, onA, onB, rfl, r₁⟩ :=
    (h.watch_alike like limits r).split
  simp only [wait, onA, onB]
  exact ⟨rfl, h'.drop_alike like r₁⟩

end Handle

theorem supervise_alike (limits : Limits) (l : Launch) (r : R s t) :
    Alike R (supervise a limits l s) (supervise b limits l t) := by
  obtain ⟨v, s₁, t₁, onA, onB, r₁⟩ := (Handle.spawn_alike like l r).split
  cases v with
  | error e => simp [supervise, onA, onB, Alike, r₁]
  | ok h =>
    simp only [supervise, onA, onB]
    exact h.wait_alike like limits r₁

theorem Search.firstExecutable_alike (candidates : List Bytes) (r : R s t) :
    Alike R (firstExecutable a candidates s) (firstExecutable b candidates t) := by
  induction candidates generalizing s t with
  | nil => exact ⟨rfl, r⟩
  | cons candidate rest ih =>
    obtain ⟨known, s₁, t₁, onA, onB, r₁⟩ := (like.facts candidate s t r).split
    cases known with
    | none =>
      simp only [firstExecutable, onA, onB]
      exact ih r₁
    | some facts =>
      simp only [firstExecutable, onA, onB]
      by_cases executable : facts.isExecutable
      · simp only [executable, if_true]
        exact ⟨rfl, r₁⟩
      · simp only [executable, Bool.false_eq_true, if_false]
        exact ih r₁

theorem Search.program_alike (path? : Option Bytes) (name : Bytes) (r : R s t) :
    Alike R (program a path? name s) (program b path? name t) := by
  unfold program
  split
  · exact ⟨rfl, r⟩
  · split
    · obtain ⟨known, s₁, t₁, onA, onB, r₁⟩ := (like.facts name s t r).split
      cases known <;> simp only [onA, onB] <;> exact ⟨rfl, r₁⟩
    · cases path? with
      | none => exact ⟨rfl, r⟩
      | some path => exact firstExecutable_alike like _ r

end

theorem External.start_alike {a : Host σ} {b : Host τ} {R : σ → τ → Prop}
    (like : a.toSystem.Like b.toSystem R) (env : Environment) (name : String)
    (args : List String) {s : σ}
    {t : τ} (r : R s t) : Alike R (start a env name args s) (start b env name args t) := by
  obtain ⟨found, s₁, t₁, onA, onB, r₁⟩ :=
    (Search.program_alike like env.searchPath? (Utf8.encode name) r).split
  cases found with
  | none =>
    simp only [start, onA, onB]
    exact ⟨rfl, r₁⟩
  | some program =>
    simp only [start, onA, onB]
    exact supervise_alike like env.limits ⟨program, name, args⟩ r₁

end SupervisedShell
