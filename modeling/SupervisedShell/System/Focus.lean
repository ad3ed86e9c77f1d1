import SupervisedShell.System.Basic

set_option autoImplicit false

namespace SupervisedShell

structure Focus (τ σ : Type) where
  get : τ → σ
  set : τ → σ → τ
  get_set : ∀ (t : τ) (s : σ), get (set t s) = s

variable {τ σ α : Type}

def Focus.step (f : Focus τ σ) (g : σ → α × σ) (t : τ) : α × τ :=
  ((g (f.get t)).1, f.set t (g (f.get t)).2)

def System.within (sys : System σ) (f : Focus τ σ) (note : Log.Record → τ → τ)
    (timeless : ∀ moment r t, sys.readings moment (f.get (note r t)) ≤
      sys.readings moment (f.get t)) :
    System τ where
  facts path := f.step (sys.facts path)
  spawn l := f.step (sys.spawn l)
  poll pid := f.step (sys.poll pid)
  kill pid := f.step (sys.kill pid)
  reap pid := f.step (sys.reap pid)
  now := f.step sys.now
  sleep d t := f.set t (sys.sleep d (f.get t))
  log := note
  readings moment t := sys.readings moment (f.get t)
  readings_log := timeless
  readings_lt pid moment d t t' early between := by
    simp only [Focus.step, f.get_set] at early between ⊢
    exact sys.readings_lt pid moment d (f.get t) (f.get t') early between

end SupervisedShell
