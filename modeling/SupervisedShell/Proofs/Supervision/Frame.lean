import SupervisedShell.Proofs.Supervision.Alike

set_option autoImplicit false

namespace SupervisedShell

variable {σ : Type}

/-- No call to the system breaks the property. -/
structure System.Keeps (sys : System σ) (P : σ → Prop) : Prop where
  facts : ∀ path s, P s → P (sys.facts path s).2
  spawn : ∀ l s, P s → P (sys.spawn l s).2
  poll : ∀ pid s, P s → P (sys.poll pid s).2
  kill : ∀ pid s, P s → P (sys.kill pid s).2
  reap : ∀ pid s, P s → P (sys.reap pid s).2
  now : ∀ s, P s → P (sys.now s).2
  sleep : ∀ d s, P s → P (sys.sleep d s)
  log : ∀ r s, P s → P (sys.log r s)

/-- A system answers like itself, and the property goes along. -/
theorem System.Keeps.like {sys : System σ} {P : σ → Prop} (keeps : sys.Keeps P) :
    sys.Like sys fun s t => s = t ∧ P t := by
  have ask {α : Type} {f : σ → α × σ} (kept : ∀ s, P s → P (f s).2) (s t : σ)
      (same : s = t ∧ P t) :
      Alike (fun s t => s = t ∧ P t) (f s) (f t) := by
    obtain ⟨rfl, hs⟩ := same
    exact ⟨rfl, rfl, kept s hs⟩
  refine ⟨fun path => ask (keeps.facts path), fun l => ask (keeps.spawn l),
    fun pid => ask (keeps.poll pid),
    fun pid => ask (keeps.kill pid), fun pid => ask (keeps.reap pid), ask keeps.now, ?_, ?_⟩
  · rintro d s _ ⟨rfl, hs⟩
    exact ⟨rfl, keeps.sleep d s hs⟩
  · rintro r s _ ⟨rfl, hs⟩
    exact ⟨rfl, keeps.log r s hs⟩

theorem Handle.wait_keeps {sys : System σ} {P : σ → Prop} (keeps : sys.Keeps P)
    (limits : Limits) (h : Handle) {s : σ} (hs : P s) : P (h.wait sys limits s).2 :=
  (h.wait_alike keeps.like limits ⟨rfl, hs⟩).2.2

theorem External.start_keeps {host : Host σ} {P : σ → Prop} (keeps : host.toSystem.Keeps P)
    (env : Environment) (name : String) (args : List String) {s : σ} (hs : P s) :
    P (External.start host env name args s).2 :=
      (start_alike keeps.like env name args ⟨rfl, hs⟩).2.2

end SupervisedShell
