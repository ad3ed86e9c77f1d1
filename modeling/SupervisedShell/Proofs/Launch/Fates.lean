import SupervisedShell.Proofs.Session.Attempt
import SupervisedShell.Proofs.Session.Printout
import SupervisedShell.Proofs.Supervision.Verdict
/-!
What becomes of a name that is launched. There are six fates; the calls of a launch tell which of
them it was, and the line that is written and the exit code follow from it.
-/

set_option autoImplicit false

namespace SupervisedShell

variable {σ : Type}

namespace External

inductive Fate where
  | unresolved
  | refused (cause : IoError)
  | lost (pid : Nat) (cause : IoError)
  | exited (code : Int)
  | signaled (signal : Nat)
  | timedOut (limit : Duration)

namespace Fate

def code : Fate → ExitCode
  | unresolved => 127
  | refused _ => 126
  | lost .. => 1
  | exited code => code
  | signaled signal => 128 + signal
  | timedOut _ => 124

def line? (name : String) : Fate → Option String
  | unresolved => some s!"{name}: command not found"
  | refused cause => some s!"{name}: failed to execute: {cause.message}"
  | lost pid cause => some s!"{name}: lost track of process {pid}: {cause.message}"
  | exited _ => none
  | signaled signal => some s!"{name}: terminated by signal {signal}"
  | timedOut limit => some s!"{name}: timed out after {limit.secondsText}s, killed"

def text (name : String) (fate : Fate) : Bytes :=
  (fate.line? name).elim [] fun line => Utf8.encode (line ++ "\n")

end Fate

/-- The last calls about a child that was started, with its fate. -/
inductive Ends (limits : Limits) (pid : Nat) (started : Instant) : List Call → Fate → Prop where
  | lost (cause : IoError) (k : Except IoError Unit) (q : Except IoError WaitStatus) :
    Ends limits pid started [.poll pid (.error cause), .kill pid k, .reap pid q] (.lost pid cause)
  | exited {status : WaitStatus} {code : Int} (own : Outcome.ofStatus status = .exited code)
      (t : Instant) :
    Ends limits pid started [.poll pid (.ok (some status)), .now t] (.exited code)
  | signaled (signal : Nat) (dumped : Bool) (t : Instant) :
    Ends limits pid started [.poll pid (.ok (some (.signaled signal dumped))), .now t]
      (.signaled signal)
  | timedOut {t : Instant} (late : (limits.deadline started).nanos ≤ t.nanos)
      (k : Except IoError Unit) (q : Except IoError WaitStatus) (t' : Instant) :
    Ends limits pid started [.now t, .kill pid k, .reap pid q, .now t'] (.timedOut limits.timeout)

/-- All calls of a launch, with its fate. A child is told the name as it was typed, and the
arguments as they are. -/
inductive Evident (found? : Option Bytes) (limits : Limits) (name : String) (args : List String) :
    List Call → Fate → Prop where
  | unresolved {looks : List Call} (missing : found? = none) (looked : ∀ c ∈ looks, c.looksUp) :
    Evident found? limits name args looks .unresolved
  | unasked {program : Bytes} {looks : List Call} (found : found? = some program)
      (looked : ∀ c ∈ looks, c.looksUp) (nul : Launch.hasNul ⟨program, name, args⟩ = true) :
    Evident found? limits name args looks (.refused .interiorNul)
  | refused {program : Bytes} {looks : List Call} (found : found? = some program)
      (looked : ∀ c ∈ looks, c.looksUp) (cause : IoError) :
    Evident found? limits name args (looks ++ [.spawn ⟨program, name, args⟩ (.error cause)])
      (.refused cause)
  | started {program : Bytes} {looks watch last : List Call} {pid : Nat} {started : Instant}
      {fate : Fate} (found : found? = some program) (looked : ∀ c ∈ looks, c.looksUp)
      (watched : ∀ c ∈ watch, c.IsWatching pid) (ends : Ends limits pid started last fate) :
    Evident found? limits name args
      (looks ++ .spawn ⟨program, name, args⟩ (.ok pid) :: .now started :: (watch ++ last)) fate

theorem not_started_of_looks {looks : List Call} (looked : ∀ c ∈ looks, c.looksUp) (l : Launch)
    (pid : Nat) :
    .spawn l (.ok pid) ∉ looks := by
  intro known
  simpa [Call.looksUp] using looked _ known

namespace Fate

def ofStatus : WaitStatus → Fate
  | .exited code => exited code
  | .signaled signal _ => signaled signal
  | .stopped _ | .continued => exited (-1)

def ofCall? (limits : Limits) : Call → Option Fate
  | .spawn _ (.error cause) => some (refused cause)
  | .poll pid (.error cause) => some (lost pid cause)
  | .poll _ (.ok (some status)) => some (ofStatus status)
  | .kill .. => some (timedOut limits.timeout)
  | _ => none

def ofCalls (found? : Option Bytes) (limits : Limits) (calls : List Call) : Fate :=
  (calls.findSome? (ofCall? limits)).getD
    (if found?.isSome then refused .interiorNul else unresolved)

theorem ofStatus_of_exited {status : WaitStatus} {code : Int}
    (own : Outcome.ofStatus status = .exited code) :
    ofStatus status = exited code := by
  cases status with
  | exited n =>
    cases own
    rfl
  | signaled n dumped => cases own
  | stopped n =>
    cases own
    rfl
  | continued =>
    cases own
    rfl

theorem findSome?_looks {limits : Limits} {looks : List Call}
    (looked : ∀ c ∈ looks, c.looksUp) :
    looks.findSome? (ofCall? limits) = none := by
  refine List.findSome?_eq_none_iff.mpr fun c known => ?_
  have looks := looked c known
  cases c <;> simp_all [Call.looksUp, ofCall?]

theorem findSome?_watch {limits : Limits} {pid : Nat} {watch : List Call}
    (watched : ∀ c ∈ watch, c.IsWatching pid) :
    watch.findSome? (ofCall? limits) = none := by
  refine List.findSome?_eq_none_iff.mpr fun c known => ?_
  rcases watched c known with rfl | ⟨t, rfl⟩ | ⟨d, rfl⟩ <;> rfl

end Fate

theorem Ends.findSome? {limits : Limits} {pid : Nat} {started : Instant} {last : List Call}
    {fate : Fate}
    (h : Ends limits pid started last fate) : last.findSome? (Fate.ofCall? limits) = some fate := by
  cases h with
  | lost cause k q => rfl
  | exited own t => simp [Fate.ofCall?, Fate.ofStatus_of_exited own]
  | signaled signal dumped t => rfl
  | timedOut late k q t' => rfl

theorem Evident.ofCalls {found? : Option Bytes} {limits : Limits} {name : String}
    {args : List String}
    {calls : List Call} {fate : Fate} (h : Evident found? limits name args calls fate) :
    Fate.ofCalls found? limits calls = fate := by
  cases h with
  | unresolved missing looked => simp [Fate.ofCalls, Fate.findSome?_looks looked, missing]
  | unasked found looked nul => simp [Fate.ofCalls, Fate.findSome?_looks looked, found]
  | refused found looked cause =>
    simp [Fate.ofCalls, List.findSome?_append, Fate.findSome?_looks looked, Fate.ofCall?]
  | started found looked watched ends =>
    simp [Fate.ofCalls, List.findSome?_append, List.findSome?_cons, Fate.findSome?_looks looked,
      Fate.findSome?_watch watched, ends.findSome?, Fate.ofCall?]

def said? (name : String) : Except ProgramError Report → Option String
  | .ok r => if r.outcome.isExit then none else some s!"{name}: {r.outcome.text}"
  | .error e => some e.message

def answer : Except ProgramError Report → ExitCode
  | .ok r => r.outcome.exitCode
  | .error e => e.exitCode

def Reports (name : String) (r : Except ProgramError Report) (fate : Fate) : Prop :=
  said? name r = fate.line? name ∧ answer r = fate.code

theorem line_append {first whole : String} (joined : ": " ++ first = whole) (name rest : String) :
    name ++ ": " ++ (first ++ rest) = name ++ whole ++ rest := by
  rw [← joined]
  simp only [String.append_assoc]

theorem line_signaled (name : String) (signal : Nat) :
    s!"{name}: {(Outcome.signaled signal).text}" = s!"{name}: terminated by signal {signal}" :=
  line_append (by decide) name (toString signal)

theorem line_timedOut (name : String) (limit : Duration) :
    s!"{name}: {(Outcome.timedOut limit).text}" =
      s!"{name}: timed out after {limit.secondsText}s, killed" := by
  have joined : ": " ++ "timed out after " = ": timed out after " := by decide
  have regrouped : "timed out after " ++ limit.secondsText ++ "s, killed" =
      "timed out after " ++ (limit.secondsText ++ "s, killed") := String.append_assoc
  calc name ++ ": " ++ ("timed out after " ++ limit.secondsText ++ "s, killed")
      = name ++ ": timed out after " ++ (limit.secondsText ++ "s, killed") := by
        rw [regrouped, line_append joined]
    _ = name ++ ": timed out after " ++ limit.secondsText ++ "s, killed" := String.append_assoc.symm

theorem text_of_outcome (name : String) (o : Outcome) :
    (Line.ofTexts (name :: ": " :: o.pieces)).text = s!"{name}: {o.text}" := by
  rw [Line.text_ofTexts, String.join_cons, String.join_cons, Outcome.join_pieces]
  exact String.append_assoc.symm

theorem reports_ofStatus (name : String) (pid : Nat) (d : Duration) (status : WaitStatus) :
    Reports name (.ok ⟨pid, d, .ofStatus status⟩) (.ofStatus status) := by
  cases status with
  | exited code => exact ⟨rfl, rfl⟩
  | signaled signal dumped => exact ⟨congrArg some (line_signaled name signal), rfl⟩
  | stopped signal => exact ⟨rfl, rfl⟩
  | continued => exact ⟨rfl, rfl⟩

theorem reports_timedOut (name : String) (pid : Nat) (d limit : Duration) :
    Reports name (.ok ⟨pid, d, .timedOut limit⟩) (.timedOut limit) :=
  ⟨congrArg some (line_timedOut name limit), rfl⟩

theorem ends_ofStatus (limits : Limits) (pid : Nat) (started : Instant) (status : WaitStatus)
    (t : Instant) :
    Ends limits pid started [.poll pid (.ok (some status)), .now t] (.ofStatus status) := by
  cases status with
  | exited code => exact .exited rfl t
  | signaled signal dumped => exact .signaled signal dumped t
  | stopped signal => exact .exited rfl t
  | continued => exact .exited rfl t

theorem watched_rounds {limits : Limits} {pid : Nat} {started : Instant} {rounds : List Round}
    (early : ∀ r ∈ rounds, r.Early limits started) :
    ∀ c ∈ rounds.flatMap (Round.calls pid), c.IsWatching pid := by
  intro c known
  have isEarly := Round.isEarly (h := ⟨"", .ofPid pid, started, .running⟩) early known
  exact isEarly.isWatching

theorem fate_of_launched {found? : Option Bytes} {limits : Limits} {name : String}
    {args : List String}
    {looks calls : List Call} {r : Except ProgramError Report} (looked : ∀ c ∈ looks, c.looksUp)
    (launched : Launched found? limits name args calls r) :
    ∃ fate, Evident found? limits name args (looks ++ calls) fate ∧ Reports name r fate := by
  cases launched with
  | unresolved missing =>
    exact ⟨.unresolved, by simpa using .unresolved missing looked, rfl, rfl⟩
  | supervised found supervision =>
    cases supervision with
    | unasked nul =>
      exact ⟨.refused .interiorNul, by simpa using .unasked found looked nul, rfl, rfl⟩
    | refused cause => exact ⟨.refused cause, .refused found looked cause, rfl, rfl⟩
    | @watched pid started rounds ending early due =>
      have watched : ∀ c ∈ rounds.flatMap (Round.calls pid), c.IsWatching pid :=
        watched_rounds early
      cases ending with
      | gone status t =>
        exact ⟨.ofStatus status,
          .started found looked watched (ends_ofStatus limits pid started status t),
          reports_ofStatus name pid _ status⟩
      | lost cause k q =>
        exact ⟨.lost pid cause, .started found looked watched (.lost cause k q), rfl, rfl⟩
      | overdue t k q t' =>
        -- The poll before the late reading belongs to the watch.
        have watched' : ∀ c ∈ rounds.flatMap (Round.calls pid) ++ [.poll pid (.ok none)],
            c.IsWatching pid := by
          intro c known
          rcases List.mem_append.mp known with inside | last
          · exact watched c inside
          · exact .inl (List.mem_singleton.mp last)
        refine ⟨.timedOut limits.timeout, ?_, reports_timedOut name pid _ limits.timeout⟩
        simpa [Ending.calls] using Evident.started found looked watched' (.timedOut due k q t')

end External

namespace Printout

def journaled {host : Host σ} (p : Printout host) : Printout host.journaled where
  sound j := p.sound j.world
  printed j := p.printed j.world
  write b rest j sound := by
    obtain ⟨n, s', written, sound', printed⟩ := p.write b rest j.world sound
    exact ⟨n, ⟨s', j.events ++ [.write (b :: rest) (.ok (n + 1))]⟩,
      by simp [Host.journaled, Journal.note, written], sound', printed⟩
  flush j sound := by
    obtain ⟨s', flushed, sound', printed⟩ := p.flush j.world sound
    exact ⟨⟨s', j.events ++ [.flush
      (.ok ())]⟩, by simp [Host.journaled, Journal.note, flushed], sound', printed⟩
  log r j sound := p.log r j.world sound

theorem Quiet.journaled {host : Host σ} {p : Printout host} (quiet : p.Quiet) :
    p.journaled.Quiet := fun b =>
  { facts := fun path j => (quiet b).facts path j.world
    spawn := fun l j => (quiet b).spawn l j.world
    poll := fun pid j => (quiet b).poll pid j.world
    kill := fun pid j => (quiet b).kill pid j.world
    reap := fun pid j => (quiet b).reap pid j.world
    now := fun j => (quiet b).now j.world
    sleep := fun d j => (quiet b).sleep d j.world
    log := fun r j => (quiet b).log r j.world }

end Printout

namespace External

def Written (text? : Option String) (events : List Event) : Prop :=
  match text? with
  | some text => ∃ l : Line, l.text = text ∧ Attempts l.pieces events (.ok ())
  | none => events = []

section
variable {host : Host σ} {j : Journal σ}

theorem run_of_flush {s s₁ : σ} (flushed : host.flush s = (.ok (), s₁)) (name : String)
    (args : List String) (env : Environment) : run host name args env s =
      conclude host name (start host env name args s₁).1 env
        (start host env name args s₁).2 := by
  simp [run, Bind.bind, Action.bind, Action.io, Action.environment, Action.ask, flushed]

theorem conclude_error {e : ProgramError} {s s' : σ}
    (printed : host.toOutlet.printLine (.ofTexts e.pieces) s = (.ok (), s')) (name : String)
    (env : Environment) : conclude host name (.error e) env s = (.ok e.exitCode, env, s') := by
  simp only [conclude, Bind.bind, Action.bind, Action.printLine, Action.io, printed]
  rfl

theorem conclude_exit {r : Report} (isExit : r.outcome.isExit = true) (name : String)
    (env : Environment) (s : σ) :
    conclude host name (.ok r) env s =
      (.ok r.outcome.exitCode, env, host.log (.reported name r.pid r.outcome r.elapsed) s) := by
  simp [conclude, Bind.bind, Pure.pure, Action.bind, Action.pure, Action.log, Action.change, isExit]

theorem conclude_said {r : Report} {name : String} {s s' : σ} (isExit : r.outcome.isExit = false)
    (printed : host.toOutlet.printLine (.ofTexts (name :: ": " :: r.outcome.pieces))
      (host.log (.reported name r.pid r.outcome r.elapsed) s) = (.ok (), s')) (env : Environment) :
    conclude host name (.ok r) env s = (.ok r.outcome.exitCode, env, s') := by
  simp only [conclude, Bind.bind, Pure.pure, Action.bind, Action.pure, Action.log,
    Action.change, isExit, Action.printLine, Action.io, printed, Bool.not_false, if_true]

variable (p : Printout host) (sound : p.sound j.world)
include sound

theorem printLine_written (l : Line) :
    ∃ offers j', host.journaled.toOutlet.printLine l j = (.ok (), j') ∧
      j'.events = j.events ++ offers ∧ Written (some l.text) offers ∧
      p.printed j'.world = p.printed j.world ++ Utf8.encode (l.text ++ "\n") := by
  obtain ⟨j', printed, -, more⟩ := p.journaled.printLine l sound
  obtain ⟨offers, row, events⟩ := Journal.printLine_attempts host l j
  rw [printed] at row events
  exact ⟨offers, j', printed, events, ⟨l, rfl, row⟩, more⟩

theorem conclude_written (name : String) (r : Except ProgramError Report) (env : Environment) :
    ∃ offers j', conclude host.journaled name r env j = (.ok (answer r), env, j') ∧
      j'.events = j.events ++ offers ∧ Written (said? name r) offers ∧
      p.printed j'.world = p.printed j.world ++
        (said? name r).elim [] fun line => Utf8.encode (line ++ "\n") := by
  cases r with
  | error e =>
    obtain ⟨offers, j', printed, events, written, more⟩ :=
      printLine_written p sound (.ofTexts e.pieces)
    rw [Line.text_ofTexts, ProgramError.join_pieces] at written more
    exact ⟨offers, j', conclude_error printed name env, events, written, more⟩
  | ok r =>
    obtain ⟨sound₁, printed₁⟩ :=
      p.log (.reported name r.pid r.outcome r.elapsed) j.world sound
    cases isExit : r.outcome.isExit with
    | true =>
      have silent : said? name (.ok r) = none := by simp [said?, isExit]
      refine ⟨[], _, conclude_exit isExit name env j,
        (List.append_nil _).symm, by rw [silent]; rfl, ?_⟩
      rw [silent]
      exact printed₁.trans (List.append_nil _).symm
    | false =>
      have said : said? name (.ok r) = some s!"{name}: {r.outcome.text}" := by simp [said?, isExit]
      let logged := host.journaled.log (.reported name r.pid r.outcome r.elapsed) j
      have sound₁ : p.sound logged.world := sound₁
      obtain ⟨offers, j', printed, events, written, more⟩ :=
        printLine_written p sound₁ (.ofTexts (name :: ": " :: r.outcome.pieces))
      rw [text_of_outcome] at written more
      refine ⟨offers, j', conclude_said isExit printed env, events, by rwa [said], ?_⟩
      rw [said, ← printed₁]
      exact more

end

section
variable {host : Host σ} (p : Printout host) (quiet : p.Quiet) (name : String) (args : List String)
  (env : Environment) (j : Journal σ) (sound : p.sound j.world)
include quiet sound

/-- However a launch goes, it answers with the code of one fate, and says what there is to
say about it. -/
theorem run_evident :
    ∃ calls offers fate j', run host.journaled name args env j = (.ok fate.code, env, j') ∧
      j'.events = j.events ++ .flush (.ok ()) :: (calls.map .call ++ offers) ∧
      Written (fate.line? name) offers ∧
      p.printed j'.world = p.printed j.world ++ fate.text name ∧
      Evident (Search.program host.toSystem env.searchPath? (Utf8.encode name)
        (host.flush j.world).2).1
        env.limits name args calls fate := by
  obtain ⟨j₁, flushed, sound₁, printed₁⟩ := p.journaled.flush j sound
  have world₁ : j₁.world = (host.flush j.world).2 := (congrArg (·.2.world) flushed).symm
  have events₁ : j₁.events = j.events ++ [.flush (.ok ())] := by
    obtain ⟨answered, rfl⟩ := Prod.mk.inj flushed
    simp [answered]
  obtain ⟨looks, calls, looked, events₂, launched⟩ := start_launched host env name args j₁
  obtain ⟨fate, evident, said, answered⟩ := fate_of_launched looked launched
  -- The printout grows when the launch is concluded, and not before.
  obtain ⟨sound₂, printed₂⟩ :=
    start_keeps (quiet.journaled (p.printed j.world)) env name args (s := j₁)
    ⟨sound₁, printed₁⟩
  obtain ⟨offers, j', concluded, events₃, written, printed₃⟩ :=
    conclude_written p sound₂ name
    (start host.journaled env name args j₁).1 env
  rw [said] at written printed₃
  rw [world₁] at evident
  refine ⟨looks ++ calls, offers, fate, j', ?_, ?_, written, ?_, evident⟩
  · rw [run_of_flush flushed, concluded, answered]
  · rw [events₃, events₂, events₁]
    simp
  · rw [printed₃]
    exact congrArg (· ++ _) printed₂

/-- Which fate it is that a launch reports, is evident from the calls. -/
theorem launch_fate :
    ∃ calls offers fate j', run host.journaled name args env j = (.ok fate.code, env, j') ∧
      j'.events = j.events ++ .flush (.ok ()) :: (calls.map .call ++ offers) ∧
      Written (fate.line? name) offers ∧
      p.printed j'.world = p.printed j.world ++ fate.text name ∧
      ∀ other, Evident (Search.program host.toSystem env.searchPath? (Utf8.encode name)
        (host.flush j.world).2).1
        env.limits name args calls other ↔ other = fate := by
  obtain ⟨calls, offers, fate, j', ran, events, written, printed, evident⟩ :=
    run_evident p quiet name args env j sound
  refine ⟨calls, offers, fate, j', ran, events, written, printed,
    fun other => ⟨fun h => ?_, ?_⟩⟩
  · rw [← h.ofCalls, evident.ofCalls]
  · rintro rfl
    exact evident

end

/-- A child of the machine that would sleep for a minute, and is killed when its time is up. -/
theorem launch_fate_of_overdue :
    let env : Environment := ⟨none, ⟨.ofMillis 150, .ofMillis 100⟩, false⟩
    let j := Journal.start (Rig.start (Machine.ofFiles .standard none false) ⟨.empty, 0, 0, 0⟩)
    let l : Launch := ⟨Utf8.encode "/bin/sleep", "/bin/sleep", ["60"]⟩
    Rig.printout.Quiet ∧ Rig.printout.sound j.world ∧
      ∃ (looks watch last : List Call) (pid : Nat) (started : Instant) (offers : List Event)
        (j' : Journal Rig),
        run Rig.host.journaled l.name l.args env j = (.ok 124, env, j') ∧
        j'.events = .flush (.ok ()) ::
          ((looks ++ .spawn l (.ok pid) :: .now started :: (watch ++ last)).map .call ++ offers) ∧
        Ends env.limits pid started last (.timedOut (.ofMillis 150)) ∧
        j'.world.writer.capture.bytes =
          Utf8.encode "/bin/sleep: timed out after 0.15s, killed\n" := by
  intro env j l
  have sound : Rig.printout.sound j.world := ⟨rfl, rfl⟩
  obtain ⟨calls, offers, fate, j', ran, events, -, printed, only⟩ :=
    launch_fate Rig.printout Rig.quiet l.name l.args env j sound
  have found : (Search.program Rig.host.toSystem env.searchPath? (Utf8.encode l.name)
      (Rig.host.flush j.world).2).1 = some l.program := by decide +kernel
  have code : (run Rig.host.journaled l.name l.args env j).1.toOption = some 124 := by
    decide +kernel
  have captured : (run Rig.host.journaled l.name l.args env j).2.2.world.writer.capture.bytes =
      Utf8.encode "/bin/sleep: timed out after 0.15s, killed\n" := by decide +kernel
  rw [ran] at code captured
  have told : fate.code = 124 := Option.some.inj code
  have evident := (only fate).mpr rfl
  rw [found] at evident
  refine ⟨Rig.quiet, sound, ?_⟩
  cases evident with
  | unresolved missing => cases missing
  | unasked | refused => cases told
  | @started program looks watch last pid started fate same looked watched ends =>
    cases same
    cases ends with
    | lost => cases told
    | exited own t =>
      -- Nothing would be said about a child that has exited.
      have silent : j'.world.writer.capture.bytes = [] := printed
      rw [captured] at silent
      exact absurd silent (by decide)
    | signaled signal =>
      have low : (128 : Int) + signal = 124 := told
      omega
    | timedOut late k q t =>
      exact ⟨looks, watch, _, pid, started, offers, j', ran, events,
        .timedOut late k q t, captured⟩

end External

end SupervisedShell
