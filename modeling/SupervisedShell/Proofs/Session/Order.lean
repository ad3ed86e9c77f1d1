import SupervisedShell.Proofs.Session.Journal
import SupervisedShell.Proofs.Session.Steps

set_option autoImplicit false

namespace SupervisedShell

variable {ι σ : Type}

namespace Event

def handsOver : Event → Bool
  | read _ | call (.facts ..) | call (.spawn ..) => true
  | _ => false

def silent : Event → Bool
  | write .. | flush _ => false
  | _ => true

def clears (clear : Bool) : Event → Bool
  | write .. => false
  | flush a => a.isOk
  | _ => clear

/-- What an outlet that holds everything back until a flush has in store behind the event. -/
def holds (held : Bytes) : Event → Bytes
  | write bytes (.ok n) => held ++ bytes.take n
  | flush (.ok ()) => []
  | _ => held

end Event

/-- The last flush has worked, and nothing was offered to the outlet since. -/
def Cleared (events : List Event) : Prop :=
  ∃ before since, events = before ++ .flush (.ok ()) :: since ∧ ∀ e ∈ since, e.silent

def held (events : List Event) : Bytes := events.foldl Event.holds []

theorem cleared_of_clears {clear : Bool} {events : List Event}
    (h : events.foldl Event.clears clear = true) :
    Cleared events ∨ clear = true ∧ ∀ e ∈ events, e.silent := by
  induction events generalizing clear with
  | nil => exact .inr ⟨h, by simp⟩
  | cons e events ih =>
    rcases ih h with ⟨before, since, rfl, silent⟩ | ⟨cleared, silent⟩
    · exact .inl ⟨e :: before, since, rfl, silent⟩
    · cases e with
      | write bytes a => simp [Event.clears] at cleared
      | flush a =>
        cases a with
        | error e => simp [Event.clears, Except.isOk, Except.toBool] at cleared
        | ok _ => exact .inl ⟨[], events, rfl, silent⟩
      | read a => exact .inr ⟨cleared, List.forall_mem_cons.mpr ⟨rfl, silent⟩⟩
      | call c => exact .inr ⟨cleared, List.forall_mem_cons.mpr ⟨rfl, silent⟩⟩

theorem Cleared.held_eq_nil {events : List Event} (h : Cleared events) : held events = [] := by
  obtain ⟨before, since, rfl, silent⟩ := h
  have kept : since.foldl Event.holds [] = [] := by
    induction since with
    | nil => rfl
    | cons e since ih =>
      obtain ⟨first, rest⟩ := List.forall_mem_cons.mp silent
      cases e with
      | write bytes a => simp [Event.silent] at first
      | flush a => simp [Event.silent] at first
      | read a => exact ih rest
      | call c => exact ih rest
  simpa [held, Event.holds] using kept

def Event.Ready (clear : Bool) (e : Event) : Prop := e.handsOver = true → clear = true

theorem ready_calls (calls : List Call) :
    Heeds Event.clears Event.Ready true (calls.map .call) := by
  induction calls with
  | nil => simp
  | cons c calls ih => exact Heeds.cons.mpr ⟨fun _ => rfl, ih⟩

theorem flush_first :
    Discipline fun events => ∀ clear, Heeds Event.clears Event.Ready clear events where
  nil clear := by simp
  append hx hy clear := Heeds.append.mpr ⟨hx clear, hy _⟩
  write bytes a clear := by simp [Event.Ready, Event.handsOver]
  flush a clear := by simp [Event.Ready, Event.handsOver]
  read a clear := by simp [Event.Ready, Event.handsOver, Event.clears, Except.isOk, Except.toBool]
  launch _ _ clear := Heeds.cons.mpr ⟨by simp [Event.Ready, Event.handsOver], ready_calls _⟩

theorem cleared_of_handsOver {host : Host σ} {prompt : String} {source : LineSource ι σ}
    {us : List (Use ι)} {env : Environment} {s : σ} {pre post : List Event} {e : Event}
    (split : Interpreter.asks host prompt source us env s = pre ++ e :: post)
    (handed : e.handsOver) :
    Cleared pre := by
  have ready := flush_first.asks host prompt source us env s false pre e post split handed
  rcases cleared_of_clears ready with cleared | ⟨begun, -⟩
  · exact cleared
  · simp at begun

namespace Interpreter

/-- From the head of the loop back to it, once for each line that is read. -/
inductive Turns (sh : Interpreter σ) (source : LineSource ι σ) :
    Environment → ι → σ → Environment → ι → σ → Prop where
  | none (env : Environment) (input : ι) (s : σ) : sh.Turns source env input s env input s
  | more {env env₁ env' : Environment} {input input₁ input' : ι} {s s₁ s₂ s₃ s' : σ}
      {line : String}
    (staying : env.shouldExit = false) (flushed : sh.host.flush s = (.ok (), s₁))
    (read : source.read sh.prompt input s₁ = (.ok (some line), input₁, s₂))
    (stepped : sh.step line env s₂ = (.ok (), env₁, s₃))
    (rest : sh.Turns source env₁ input₁ s₃ env' input' s') :
    sh.Turns source env input s env' input' s'

theorem Turns.session_eq {sh : Interpreter σ} {source : LineSource ι σ} {env env' : Environment}
    {input input' : ι} {s s' : σ} (turns : sh.Turns source env input s env' input' s') :
    sh.session source env input s = sh.session source env' input' s' := by
  induction turns with
  | none env input s => rfl
  | more staying flushed read stepped _ ih => rw [session_of_line staying flushed read stepped, ih]

theorem session_of_flush_error {sh : Interpreter σ} {source : LineSource ι σ} {env : Environment}
    {input : ι} {s s' : σ} {e : IoError} (staying : env.shouldExit = false)
    (flushed : sh.host.flush s = (.error e, s')) :
    sh.session source env input s = (.error (.io e), env, input, s') := by
  rw [session]
  simp only [staying, flushed, Bool.false_eq_true, if_false]

end Interpreter

theorem dispatch_of_flush_error {host : Host σ} {name : String} {args : List String} {s s' : σ}
    {e : IoError} (foreign : Builtin.ofArgs? name args = none)
    (flushed : host.flush s = (.error e, s')) (env : Environment) :
    dispatch (standardFactories host) name args env s = (.error (.io e), env, s') := by
  rw [dispatch_of_foreign foreign]
  simp [External.run, bind, Action.bind, Action.io, flushed]

theorem Interpreter.executeLine_of_flush_error {host : Host σ} {prompt line name : String}
    {argv : ArgVector}
    {env : Environment} {s s' : σ} {e : IoError} (split : tokenize line = .ok argv)
    (named : argv.command? = some name) (foreign : Builtin.ofArgs? name argv.args = none)
    (flushed : host.flush (host.log (.dispatching name argv.args.length) s) = (.error e, s')) :
    (standard host prompt).executeLine line env s = (.error (.io e), env, s') := by
  have refused := dispatch_of_flush_error foreign flushed env
  simp [executeLine, split, named, standard, bind, Action.bind, Action.log, Action.change, refused]

/-- Output comes first, and a flush that fails is the end of the matter. -/
structure OutputFirst (host : Host σ) (prompt : String) (source : LineSource ι σ) : Prop where
  cleared : ∀ us env s pre e post, Interpreter.asks host prompt source us env s =
    pre ++ e :: post →
    e.handsOver → Cleared pre ∧ held pre = []
  command : ∀ name args env j e j', Builtin.ofArgs? name args = none →
    host.journaled.flush j = (.error e, j') →
    dispatch (standardFactories host.journaled) name args env j = (.error (.io e), env, j') ∧
      j'.events = j.events ++ [.flush (.error e)]
  line : ∀ line argv name env j e j', tokenize line = .ok argv → argv.command? = some name →
    Builtin.ofArgs? name argv.args = none →
    host.journaled.flush (host.journaled.log (.dispatching name argv.args.length) j) =
      (.error e, j') →
    (Interpreter.standard host.journaled prompt).executeLine line env j =
      (.error (.io e), env, j') ∧
      j'.events = j.events ++ [.flush (.error e)]
  session : ∀ env input j env' input' j₁ e j',
    (Interpreter.standard host.journaled prompt).Turns source.journaled env input j env'
      input' j₁ →
    env'.shouldExit = false → host.journaled.flush j₁ = (.error e, j') →
    (Interpreter.standard host.journaled prompt).session source.journaled env input j =
        (.error (.io e), env', input', j') ∧
      j'.events = j₁.events ++ [.flush (.error e)]

theorem Journal.events_of_flush_error {host : Host σ} {j j' : Journal σ} {e : IoError}
    (flushed : host.journaled.flush j = (.error e, j')) :
    j'.events = j.events ++ [.flush (.error e)] := by
  obtain ⟨answered, rfl⟩ := Prod.mk.inj flushed
  rw [answered]

theorem Interpreter.output_first (host : Host σ) (prompt : String) (source : LineSource ι σ) :
    OutputFirst host prompt source where
  cleared us env s pre e post split handed := by
    have cleared := cleared_of_handsOver split handed
    exact ⟨cleared, cleared.held_eq_nil⟩
  command name args env j e j' foreign flushed :=
    ⟨dispatch_of_flush_error foreign flushed env, Journal.events_of_flush_error flushed⟩
  line line argv name env j e j' split named foreign flushed := by
    -- The log is not an event.
    let logged := host.journaled.log (.dispatching name argv.args.length) j
    have told : j'.events = logged.events ++ [.flush (.error e)] :=
      Journal.events_of_flush_error flushed
    exact ⟨executeLine_of_flush_error split named foreign flushed, told⟩
  session env input j env' input' j₁ e j' turns staying flushed := by
    refine ⟨?_, Journal.events_of_flush_error flushed⟩
    rw [turns.session_eq, session_of_flush_error staying flushed]

end SupervisedShell
