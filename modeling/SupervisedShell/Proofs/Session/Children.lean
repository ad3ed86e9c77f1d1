import SupervisedShell.Proofs.Session.Journal
import SupervisedShell.Proofs.Supervision.Custody
import SupervisedShell.Proofs.Supervision.Frame

set_option autoImplicit false

namespace SupervisedShell

variable {ι σ : Type}

namespace Event

def supervises : Event → Bool
  | call (.facts ..) | call (.spawn ..) => false
  | call _ => true
  | _ => false

def leaves (pids : List Nat) : Event → List Nat
  | call (.spawn _ (.ok pid)) => pid :: pids
  | call c => pids.filter fun pid => !c.collects pid
  | _ => pids

/-- The event finds no child left over unless it is about that child, and leaves one
over at most. -/
def Single (pids : List Nat) (e : Event) : Prop :=
  (e.supervises = false → pids = []) ∧ (e.leaves pids).length ≤ 1

def call? : Event → Option Call
  | call c => some c
  | _ => none

end Event

def uncollected (events : List Event) : List Nat := events.foldl Event.leaves []

/-- The status of each child came home behind its spawn. -/
def Gathered (events : List Event) : Prop := ∀ pre l pid post,
  events = pre ++ .call (.spawn l (.ok pid)) :: post → ∃ c, .call c ∈ post ∧ c.collects pid

def Permitted (events : List Event) : Prop := ∀ pid, ¬ Refused pid (events.filterMap Event.call?)

theorem Permitted.append {xs ys : List Event} (h : Permitted (xs ++ ys)) :
    Permitted xs ∧ Permitted ys := by
  constructor
  · intro pid refused
    exact h pid (by simpa using refused.append_right (ys.filterMap Event.call?))
  · intro pid refused
    exact h pid (by simpa using refused.append_left (xs.filterMap Event.call?))

theorem mem_leaves {pid : Nat} {pids : List Nat} {events : List Event} (known : pid ∈ pids)
    (never : ∀ c, .call c ∈ events → ¬ c.collects pid) :
    pid ∈ events.foldl Event.leaves pids := by
  induction events generalizing pids with
  | nil => exact known
  | cons e events ih =>
    refine ih ?_ fun c hc => never c (List.mem_cons_of_mem e hc)
    cases e with
    | call c =>
      have kept : pid ∈ pids.filter fun pid => !c.collects pid := by
        simpa [known] using never c List.mem_cons_self
      unfold Event.leaves
      split
      · exact List.mem_cons_of_mem _ known
      · next same =>
        cases same
        exact kept
      · exact known
    | _ => exact known

theorem gathered_of_uncollected {events : List Event} (h : uncollected events = []) :
    Gathered events := by
  rintro pre l pid post rfl
  refine Classical.byContradiction fun never => ?_
  have left : pid ∈ post.foldl Event.leaves (pid :: uncollected pre) :=
    mem_leaves List.mem_cons_self fun c hc home => never ⟨c, hc, home⟩
  have same : uncollected (pre ++ .call (.spawn l (.ok pid)) :: post) =
      post.foldl Event.leaves (pid :: uncollected pre) := by
    simp [uncollected, Event.leaves]
  rw [← same, h] at left
  simp at left

/-- From the first children to the second, never with more than one. -/
def Leads (pids : List Nat) (events : List Event) (pids' : List Nat) : Prop :=
  Heeds Event.leaves Event.Single pids events ∧ events.foldl Event.leaves pids = pids'

theorem Leads.append {a b c : List Nat} {xs ys : List Event} (hx : Leads a xs b)
    (hy : Leads b ys c) :
    Leads a (xs ++ ys) c := by
  obtain ⟨heeds, rfl⟩ := hx
  exact ⟨Heeds.append.mpr ⟨heeds, hy.1⟩, by rw [List.foldl_append, hy.2]⟩

theorem leads_looks {looks : List Call} (h : ∀ c ∈ looks, c.looksUp) :
    Leads [] (looks.map .call) [] := by
  induction looks with
  | nil => simp [Leads]
  | cons c looks ih =>
    obtain ⟨first, rest⟩ := List.forall_mem_cons.mp h
    have look : Leads [] [.call c] [] := by
      cases c with
      | facts path answer => simp [Leads, Event.Single, Event.leaves]
      | _ => simp [Call.looksUp] at first
    exact look.append (ih rest)

theorem leads_rounds (pid : Nat) (rounds : List Round) :
    Leads [pid] ((rounds.flatMap (Round.calls pid)).map .call) [pid] := by
  induction rounds with
  | nil => simp [Leads]
  | cons r rounds ih =>
    have once : Leads [pid] ((r.calls pid).map .call) [pid] := by
      simp [Leads, Round.calls, Event.Single, Event.leaves, Event.supervises, Call.collects]
    rw [List.flatMap_cons, List.map_append]
    exact once.append ih

theorem leads_ending {pid : Nat} {e : Ending} (permitted : Permitted ((e.calls pid).map .call)) :
    Leads [pid] ((e.calls pid).map .call) [] := by
  -- Only a refused wait would leave the child over.
  have granted (pre : List Call) (k : Except IoError Unit) (cause : IoError) (post : List Call) :
      e.calls pid ≠ pre ++ .kill pid k :: .reap pid (.error cause) :: post := by
    intro split
    refine permitted pid ⟨pre, k, cause, post, ?_⟩
    simp [split, Function.comp_def, Event.call?, List.filterMap_map]
  cases e with
  | gone status reported =>
    simp [Leads, Ending.calls, Event.Single, Event.leaves, Event.supervises, Call.collects]
  | lost cause kill reap =>
    cases reap with
    | ok status =>
      simp [Leads, Ending.calls, Event.Single, Event.leaves, Event.supervises, Call.collects]
    | error e => exact absurd rfl (granted [.poll pid (.error cause)] kill e [])
  | overdue reading kill reap reported =>
    cases reap with
    | ok status =>
      simp [Leads, Ending.calls, Event.Single, Event.leaves, Event.supervises, Call.collects]
    | error e =>
      exact absurd rfl (granted [.poll pid (.ok none), .now reading] kill e [.now reported])

theorem leads_supervised {calls : List Call} (h : Supervised calls)
    (permitted : Permitted (calls.map .call)) :
    Leads [] (calls.map .call) [] := by
  cases h with
  | unasked => simp [Leads]
  | refused l e => simp [Leads, Event.Single, Event.leaves]
  | watched l pid started rounds ending =>
    have begun : Leads [] [.call (.spawn l (.ok pid)), .call (.now started)] [pid] := by
      simp [Leads, Event.Single, Event.leaves, Event.supervises, Call.collects]
    have ended : Permitted ((ending.calls pid).map .call) := by
      have parts : Permitted ([.call (.spawn l (.ok pid)), .call (.now started)] ++
          ((rounds.flatMap (Round.calls pid)).map .call ++ (ending.calls pid).map .call)) := by
        simpa using permitted
      exact parts.append.2.append.2
    simpa using begun.append ((leads_rounds pid rounds).append (leads_ending ended))

theorem single_child : Discipline fun events => Permitted events → Leads [] events [] where
  nil _ := by simp [Leads]
  append hx hy permitted := (hx permitted.append.1).append (hy permitted.append.2)
  write bytes a _ := by simp [Leads, Event.Single, Event.leaves]
  flush a _ := by simp [Leads, Event.Single, Event.leaves]
  read a _ := by simp [Leads, Event.Single, Event.leaves]
  launch := by
    intro looks calls all supervised permitted
    have flushed : Leads [] [.flush (.ok ())] [] := by simp [Leads, Event.Single, Event.leaves]
    have parts : Permitted ([.flush (.ok ())] ++ (looks.map .call ++ calls.map .call)) := by
      simpa using permitted
    have watched := leads_supervised supervised parts.append.2.append.2
    simpa using flushed.append ((leads_looks all).append watched)

/-- No child is left over when a shell prints, flushes, reads a line, looks a program up or spawns
one, nor at the end; and there is never more than one. -/
structure Tended (events : List Event) : Prop where
  gathered : ∀ pre e post, events = pre ++ e :: post → e.supervises = false → Gathered pre
  alone : ∀ pre post, events = pre ++ post → (uncollected pre).length ≤ 1
  ended : Gathered events

theorem tended_of_leads {events : List Event} (h : Leads [] events []) : Tended events := by
  obtain ⟨heeds, none⟩ := h
  refine ⟨?_, ?_, gathered_of_uncollected none⟩
  · intro pre e post split idle
    exact gathered_of_uncollected ((heeds pre e post split).1 idle)
  · intro pre post split
    rcases List.eq_nil_or_concat pre with rfl | ⟨before, e, rfl⟩
    · simp [uncollected]
    · have after := (heeds before e post (by simp [split])).2
      simpa [uncollected] using after

def Journal.Unrefused (j : Journal σ) : Prop :=
  ∀ pid e, .call (.reap pid (.error e)) ∉ j.events

section
variable {host : Host σ} (granted : ∀ pid s e, (host.reap pid s).1 ≠ .error e)
include granted

theorem unrefused_keeps : host.journaled.toSystem.Keeps Journal.Unrefused where
  facts path j h := by simpa [Journal.Unrefused, Host.journaled, Journal.note] using h
  spawn l j h := by simpa [Journal.Unrefused, Host.journaled, Journal.note] using h
  poll pid j h := by simpa [Journal.Unrefused, Host.journaled, Journal.note] using h
  kill pid j h := by simpa [Journal.Unrefused, Host.journaled, Journal.note] using h
  reap pid j h := by
    intro pid' e known
    rcases List.mem_append.mp known with before | now
    · exact h pid' e before
    · simp only [List.mem_singleton, Event.call.injEq, Call.reap.injEq] at now
      exact granted pid j.world e now.2.symm
  now j h := by simpa [Journal.Unrefused, Host.journaled, Journal.note] using h
  sleep d j h := by simpa [Journal.Unrefused, Host.journaled] using h
  log r j h := h

theorem permitted_of_granted (prompt : String) (source : LineSource ι σ) (us : List (Use ι))
    (env : Environment) (s : σ) : Permitted (Interpreter.asks host prompt source us env s) := by
  have keeps := unrefused_keeps granted
  have carries : host.journaled.Carries fun j j' => j.Unrefused → j'.Unrefused := by
    refine ⟨fun _ h => h, fun first second h => second (first h), ?_, ?_, fun _ _ h => h⟩
    · intro b rest j h
      simpa [Journal.Unrefused, Host.journaled, Journal.note] using h
    · intro j h
      simpa [Journal.Unrefused, Host.journaled, Journal.note] using h
  have unrefused := carries.uses
    (fun env name args j j₁ flushed h => External.start_keeps keeps env name args (by
      have out := carries.flush j h
      rwa [flushed] at out))
    prompt source.journaled
    (fun input j j₁ flushed h => by
      have out := carries.flush j h
      rw [flushed] at out
      simpa [Journal.Unrefused, LineSource.journaled] using out)
    us env (.start s) (by simp [Journal.Unrefused, Journal.start])
  rintro pid ⟨pre, k, e, post, split⟩
  have waited : .reap pid (.error e) ∈
      (Interpreter.asks host prompt source us env s).filterMap Event.call? := by
    simp [split]
  obtain ⟨event, known, same⟩ := List.mem_filterMap.mp waited
  cases event with
  | call c =>
    cases same
    exact unrefused pid e known
  | _ => simp [Event.call?] at same

end

/-- However a shell without plug-ins is used, and whatever the world answers, its children
are tended if it may wait for those that it kills. The end of the uses is the return from
the last of them. -/
theorem Interpreter.children_tended (host : Host σ) (prompt : String) (source : LineSource ι σ)
    (us : List (Use ι)) (env : Environment) (s : σ)
    (permitted : Permitted (asks host prompt source us env s)) :
    Tended (asks host prompt source us env s) :=
  tended_of_leads (single_child.asks host prompt source us env s permitted)

/-- On the rehearsed system every path is a program that runs until it is killed. -/
def Rehearsal.host (status : WaitStatus) : Host Rehearsal where
  write bytes r := (.ok bytes.length, r)
  flush r := (.ok (), r)
  toSystem := { Rehearsal.system with
    facts := fun _ r => (some ⟨true, 0o755⟩, r)
    reap := fun _ r => (.ok status, r) }

theorem mem_keeps (host : Host σ) (e : Event) :
    host.journaled.toSystem.Keeps fun j => e ∈ j.events where
  facts _ _ h := List.mem_append_left _ h
  spawn _ _ h := List.mem_append_left _ h
  poll _ _ h := List.mem_append_left _ h
  kill _ _ h := List.mem_append_left _ h
  reap _ _ h := List.mem_append_left _ h
  now _ h := List.mem_append_left _ h
  sleep _ _ h := List.mem_append_left _ h
  log _ _ h := h

/-- A program that can be found and started is started. -/
theorem spawn_mem {host : Host σ} {env : Environment} {name : String} {args : List String}
    {program : Bytes} {pid : Nat} {j j₁ : Journal σ}
    (found : Search.program host.journaled.toSystem env.searchPath? (Utf8.encode name) j =
      (some program, j₁))
    (whole : Launch.hasNul ⟨program, name, args⟩ = false)
    (made : (host.spawn ⟨program, name, args⟩ j₁.world).1 = .ok pid) :
    .call (.spawn ⟨program, name, args⟩ (.ok pid)) ∈
      (External.start host.journaled env name args j).2.events := by
  let e : Event := .call (.spawn ⟨program, name, args⟩ (.ok pid))
  have asked : (host.journaled.spawn ⟨program, name, args⟩ j₁).1 = .ok pid := made
  have noted : e ∈ (host.journaled.spawn ⟨program, name, args⟩ j₁).2.events := by
    simp [Host.journaled, Journal.note, made, e]
  rcases answered : host.journaled.spawn ⟨program, name, args⟩ j₁ with ⟨a, j₂⟩
  rw [answered] at asked noted
  cases asked
  simp only [External.start, found, supervise, Handle.spawn, whole, answered,
    Bool.false_eq_true, if_false]
  refine Handle.wait_keeps (mem_keeps host e) env.limits _ ?_
  exact (mem_keeps host e).now _ ((mem_keeps host e).log _ j₂ noted)

/-- Three programs, by name, in a line and in a session, all of them killed at their deadlines. -/
theorem Interpreter.children_tended_of_killed :
    let host := Rehearsal.host (.signaled 9 false)
    let us :=
      [.command "./first" [], .line "./second", .session (.ofLines ["./third", "exit"] false)]
    let events := asks host standardPrompt (Recording.source Rehearsal) us (.ofSearchPath none)
      ⟨[], .ok (), .ok (.exited 0), ⟨0⟩⟩
    Permitted events ∧ Tended events ∧ ∃ l, .call (.spawn l (.ok 1)) ∈ events := by
  intro host us events
  have granted : ∀ pid s e, (host.reap pid s).1 ≠ .error e := by simp [host, Rehearsal.host]
  have permitted : Permitted events := permitted_of_granted granted _ _ _ _ _
  refine ⟨permitted, children_tended host _ _ us _ _ permitted,
    ⟨Utf8.encode "./first", "./first", []⟩, ?_⟩
  let env := Environment.ofSearchPath none
  let j : Journal Rehearsal := .start ⟨[], .ok (), .ok (.exited 0), ⟨0⟩⟩
  let begun := External.start host.journaled env "./first" [] (host.journaled.flush j).2
  have spawned : .call (.spawn ⟨Utf8.encode "./first", "./first", []⟩ (.ok 1)) ∈
      begun.2.events :=
    spawn_mem rfl (by decide) rfl
  have ran : dispatch (standardFactories host.journaled) "./first" [] env j =
      External.conclude host.journaled "./first" begun.1 env begun.2 := by
    rw [dispatch_of_foreign (by decide)]
    rfl
  -- The journal only grows from there on.
  have grows : Discipline fun _ => True :=
    ⟨trivial, fun _ _ => trivial, fun _ _ => trivial, fun _ => trivial,
    fun _ => trivial, fun _ _ => trivial⟩
  obtain ⟨more, concluded, -⟩ := (grows.carries host).conclude "./first" begun.1 env begun.2
  rw [← ran] at concluded
  let next := (dispatch (standardFactories host.journaled) "./first" [] env j).2
  obtain ⟨later, asked, -⟩ :=
    grows.uses host standardPrompt (Recording.source Rehearsal) us.tail next.1 next.2
  have same : events = begun.2.events ++ more ++ later := by
    rw [← concluded, ← asked]
    rfl
  rw [same]
  exact List.mem_append_left _ (List.mem_append_left _ spawned)

end SupervisedShell
