import Mathlib.Data.List.Permutation
import SupervisedShell.Proofs.Supervision.Alike
import SupervisedShell.Proofs.Supervision.Frame

set_option autoImplicit false

namespace SupervisedShell

variable {σ α : Type}

/-- A call with the moments at which it was made and at which it was done. -/
structure Stamp where
  made : Instant
  call : Call
  done : Instant

structure Stamped (σ : Type) where
  world : σ
  stamps : List Stamp

namespace Stamped

def start (s : σ) : Stamped σ := ⟨s, []⟩

def calls (w : Stamped σ) : List Call := w.stamps.map Stamp.call

/-- Lets a call happen, from the moment before it to the moment behind it. -/
def ask (clock : σ → Instant) (f : σ → α × σ) (c : α → Call) (w : Stamped σ) :
    α × Stamped σ :=
  ((f w.world).1, ⟨(f w.world).2,
    w.stamps ++ [⟨clock w.world, c (f w.world).1, clock (f w.world).2⟩]⟩)

end Stamped

def System.stamped (sys : System σ) (clock : σ → Instant) : System (Stamped σ) where
  facts path := Stamped.ask clock (sys.facts path) (.facts path)
  spawn l := Stamped.ask clock (sys.spawn l) (.spawn l)
  poll pid := Stamped.ask clock (sys.poll pid) (.poll pid)
  kill pid := Stamped.ask clock (sys.kill pid) (.kill pid)
  reap pid := Stamped.ask clock (sys.reap pid) (.reap pid)
  now := Stamped.ask clock sys.now .now
  sleep d w := (Stamped.ask clock (fun s => ((), sys.sleep d s)) (fun _ => .sleep d) w).2
  log r w := ⟨sys.log r w.world, w.stamps⟩
  readings moment w := sys.readings moment w.world
  readings_log moment r w := sys.readings_log moment r w.world
  readings_lt pid moment d w w' := sys.readings_lt pid moment d w.world w'.world

theorem System.stamped_like (sys : System σ) (clock : σ → Instant) :
    sys.traced.Like (sys.stamped clock) fun t w => t.world = w.world ∧ t.calls = w.calls := by
  have ask {α : Type} (f : σ → α × σ) (c : α → Call) (t : Traced σ) (w : Stamped σ)
      (same : t.world = w.world ∧ t.calls = w.calls) :
      Alike (fun t w => t.world = w.world ∧ t.calls = w.calls) (t.ask f c) (w.ask clock f c) := by
    obtain ⟨world, calls⟩ := same
    refine ⟨?_, ?_, ?_⟩
    · simp only [Traced.ask, Stamped.ask, world]
    · simp only [Traced.ask, Stamped.ask, world]
    · simp [Traced.ask, Stamped.ask, Stamped.calls, world, calls]
  refine ⟨fun _ => ask _ _, fun _ => ask _ _, fun _ => ask _ _, fun _ => ask _ _,
    fun _ => ask _ _, ask _ _, ?_, ?_⟩
  · intro d t w same
    exact (ask (fun s => ((), sys.sleep d s)) (fun _ => .sleep d) t w same).2
  · rintro r t w ⟨world, calls⟩
    exact ⟨congrArg (sys.log r) world, calls⟩

/-- The calls of a wait are those of a watch, rounds before the deadline and an ending, each with
its moments now. -/
theorem Handle.wait_stamped (sys : System σ) (clock : σ → Instant) (limits : Limits)
    {h : Handle} (unknown : h.child.status? = none) (s : σ) :
    ∃ (rounds : List Round) (e : Ending) (w : Stamped σ),
      (∀ r ∈ rounds, r.Early limits h.started) ∧ e.Due (limits.deadline h.started) ∧
      h.wait (sys.stamped clock) limits (.start s) = (e.result limits h, w) ∧
      w.calls = rounds.flatMap (Round.calls h.pid) ++ e.calls h.pid := by
  obtain ⟨rounds, e, s', early, due, -, traced⟩ := watch_traced sys limits unknown (.start s)
  have alike :=
    h.wait_alike (sys.stamped_like clock) limits (s := .start s) (t := .start s) ⟨rfl, rfl⟩
  rw [wait_eq_watch, traced] at alike
  obtain ⟨result, t, w, same, waited, -, calls⟩ := alike.split
  cases same
  exact ⟨rounds, e, w, early, due, waited, calls.symm⟩

/-- What there is to see of a child that ends by itself at a moment, or never. -/
def sightAt (end? : Option (Instant × WaitStatus)) (t : Instant) : Option WaitStatus :=
  match end? with
  | some (e, status) => if e.nanos ≤ t.nanos then some status else none
  | none => none

/-- The true time on a system with a child that ends by itself at a moment, or never. No lookup
fails, and each sees the child at some moment of its own. -/
structure Timeline (sys : System σ) (pid : Nat) (end? : Option (Instant × WaitStatus)) where
  clock : σ → Instant
  poll : ∀ s, ∃ t : Instant, (clock s).nanos ≤ t.nanos ∧
    t.nanos ≤ (clock (sys.poll pid s).2).nanos ∧
    (sys.poll pid s).1 = .ok (sightAt end? t)
  now : ∀ s, (clock s).nanos ≤ (sys.now s).1.nanos ∧
    (sys.now s).1.nanos ≤ (clock (sys.now s).2).nanos
  sleep : ∀ d s, (clock s).nanos + d.nanos ≤ (clock (sys.sleep d s)).nanos
  facts : ∀ path s, (clock s).nanos ≤ (clock (sys.facts path s).2).nanos
  spawn : ∀ l s, (clock s).nanos ≤ (clock (sys.spawn l s).2).nanos
  polls : ∀ other s, (clock s).nanos ≤ (clock (sys.poll other s).2).nanos
  kill : ∀ other s, (clock s).nanos ≤ (clock (sys.kill other s).2).nanos
  reap : ∀ other s, (clock s).nanos ≤ (clock (sys.reap other s).2).nanos
  log : ∀ r s, (clock s).nanos ≤ (clock (sys.log r s)).nanos

namespace Timeline

variable {sys : System σ} {pid : Nat} {end? : Option (Instant × WaitStatus)}

/-- The answer of a call fits its moments. -/
structure Fits (pid : Nat) (end? : Option (Instant × WaitStatus)) (x : Stamp) : Prop where
  forward : x.made.nanos ≤ x.done.nanos
  poll : ∀ a, x.call = .poll pid a →
    ∃ t : Instant, x.made.nanos ≤ t.nanos ∧ t.nanos ≤ x.done.nanos ∧
      a = .ok (sightAt end? t)
  now : ∀ t, x.call = .now t → x.made.nanos ≤ t.nanos ∧ t.nanos ≤ x.done.nanos
  sleep : ∀ d, x.call = .sleep d → x.made.nanos + d.nanos ≤ x.done.nanos

/-- The calls so far fit their moments and stand in the order of time, none of them in
the future. -/
structure Chronicle (tl : Timeline sys pid end?) (w : Stamped σ) : Prop where
  fits : ∀ x ∈ w.stamps, Fits pid end? x
  ordered : w.stamps.Pairwise fun x y => x.done.nanos ≤ y.made.nanos
  past : ∀ x ∈ w.stamps, x.done.nanos ≤ (tl.clock w.world).nanos

variable {tl : Timeline sys pid end?} {w : Stamped σ}

theorem Chronicle.start (tl : Timeline sys pid end?) (s : σ) : tl.Chronicle (.start s) :=
  ⟨by simp [Stamped.start], by simp [Stamped.start], by simp [Stamped.start]⟩

theorem Chronicle.ask (c : tl.Chronicle w) (f : σ → α × σ) (call : α → Call)
    (fits : Fits pid end? ⟨tl.clock w.world, call (f w.world).1, tl.clock (f w.world).2⟩) :
    tl.Chronicle (Stamped.ask tl.clock f call w).2 := by
  have forward := fits.forward
  refine ⟨?_, ?_, ?_⟩
  · intro x hx
    rcases List.mem_append.mp hx with old | new
    · exact c.fits x old
    · obtain rfl := List.mem_singleton.mp new
      exact fits
  · refine List.pairwise_append.mpr ⟨c.ordered, List.pairwise_singleton _ _, ?_⟩
    intro x hx y hy
    obtain rfl := List.mem_singleton.mp hy
    exact c.past x hx
  · intro x hx
    rcases List.mem_append.mp hx with old | new
    · exact Nat.le_trans (c.past x old) forward
    · obtain rfl := List.mem_singleton.mp new
      exact Nat.le_refl _

theorem chronicle_keeps (tl : Timeline sys pid end?) :
    (sys.stamped tl.clock).Keeps tl.Chronicle where
  facts path w c := c.ask _ _ ⟨tl.facts path w.world, by simp, by simp, by simp⟩
  spawn l w c := c.ask _ _ ⟨tl.spawn l w.world, by simp, by simp, by simp⟩
  poll other w c := by
    refine c.ask _ _ ⟨tl.polls other w.world, ?_, by simp, by simp⟩
    intro a same
    obtain ⟨rfl, rfl⟩ := Call.poll.inj same
    exact tl.poll w.world
  kill other w c := c.ask _ _ ⟨tl.kill other w.world, by simp, by simp, by simp⟩
  reap other w c := c.ask _ _ ⟨tl.reap other w.world, by simp, by simp, by simp⟩
  now w c := by
    have read := tl.now w.world
    refine c.ask _ _ ⟨Nat.le_trans read.1 read.2, by simp, ?_, by simp⟩
    intro t same
    cases same
    exact read
  sleep d w c := by
    have slept := tl.sleep d w.world
    refine c.ask (fun s => ((), sys.sleep d s)) (fun _ => .sleep d) ⟨?_, by simp, by simp, ?_⟩
    · exact Nat.le_trans (Nat.le_add_right _ _) slept
    · intro d' same
      cases same
      exact slept
  log r w c := by
    refine ⟨c.fits, c.ordered, ?_⟩
    intro x hx
    exact Nat.le_trans (c.past x hx) (tl.log r w.world)

theorem wait_chronicle (tl : Timeline sys pid end?) (limits : Limits) (h : Handle) (s : σ) :
    tl.Chronicle (h.wait (sys.stamped tl.clock) limits (.start s)).2 :=
  h.wait_keeps tl.chronicle_keeps limits (.start tl s)

end Timeline

/-- A system with a clock and a list of how long the next calls take. The others take no time, and
sleeps last as long as asked. A child that is killed before its end is ended by that. -/
structure Pace where
  clock : Instant
  lags : List Nat

namespace Pace

def pass (p : Pace) : Pace :=
  match p.lags with
  | [] => p
  | lag :: lags => ⟨p.clock.after ⟨lag⟩, lags⟩

def sleep (d : Duration) (p : Pace) : Pace :=
  { p.pass with clock := p.pass.clock.after (d.longer ⟨1⟩) }

theorem clock_pass (p : Pace) : p.clock.nanos ≤ p.pass.clock.nanos := by
  unfold pass
  split
  · exact Nat.le_refl _
  · exact Nat.le_add_right _ _

theorem clock_sleep (d : Duration) (p : Pace) :
    p.clock.nanos + d.nanos ≤ (p.sleep d).clock.nanos ∧
      p.clock.nanos < (p.sleep d).clock.nanos := by
  have passed := p.clock_pass
  simp only [sleep, Instant.after, Duration.longer]
  omega

def system (end? : Option (Instant × WaitStatus)) : System Pace where
  facts _ p := (none, p.pass)
  spawn _ p := (.ok 1, p.pass)
  poll _ p := (.ok (sightAt end? p.clock), p.pass)
  kill _ p := (.ok (), p.pass)
  reap _ p := (.ok ((sightAt end? p.clock).getD (.signaled 9 false)), p.pass)
  now p := (p.clock, p.pass)
  sleep := sleep
  log _ p := p
  readings moment p := moment.nanos - p.clock.nanos
  readings_log _ _ _ := Nat.le_refl _
  readings_lt _ moment d p p' early between := by
    have polled := p.clock_pass
    have read := p.pass.clock_pass
    have slept := (p'.clock_sleep d).2
    simp only at early between ⊢
    omega

def timeline (end? : Option (Instant × WaitStatus)) (pid : Nat) :
    Timeline (system end?) pid end? where
  clock := clock
  poll p := ⟨p.clock, Nat.le_refl _, p.clock_pass, rfl⟩
  now p := ⟨Nat.le_refl _, p.clock_pass⟩
  sleep d p := (p.clock_sleep d).1
  facts _ p := p.clock_pass
  spawn _ p := p.clock_pass
  polls _ p := p.clock_pass
  kill _ p := p.clock_pass
  reap _ p := p.clock_pass
  log _ _ := Nat.le_refl _

end Pace

end SupervisedShell
