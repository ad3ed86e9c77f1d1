import SupervisedShell.Proofs.Launch.Fates
import SupervisedShell.Proofs.Session.Children
import SupervisedShell.Proofs.Text.Encoding

set_option autoImplicit false

namespace SupervisedShell.External

variable {σ : Type}

namespace Fate

/-- Codes below those of the signals, other than that of a lost child. -/
theorem code_eq_iff {fate : Fate} {code : Int} (low : code < 128) (other : code ≠ 1) :
    fate.code = code ↔ fate = .exited code ∨ fate = .unresolved ∧ code = 127 ∨
      (∃ cause, fate = .refused cause) ∧ code = 126 ∨ (∃ limit, fate = .timedOut limit) ∧
        code = 124 := by
  cases fate with
  | unresolved => simp [Fate.code, eq_comm]
  | refused cause => simp [Fate.code, eq_comm]
  | lost pid cause => simp [Fate.code, other.symm]
  | exited own => simp [Fate.code]
  | signaled signal =>
    have high : (128 : Int) + signal ≠ code := by omega
    simp [Fate.code, high]
  | timedOut limit => simp [Fate.code, eq_comm]

theorem text_eq_nil_iff (name : String) (fate : Fate) :
    fate.text name = [] ↔ ∃ code, fate = .exited code := by
  have said (line : String) : Utf8.encode (line ++ "\n") ≠ [] := by
    rw [Ne, Utf8.encode_eq_nil_iff]
    simp
  cases fate <;> simp [text, line?, said]

end Fate

/-- No child exists exactly if there was no program to start, or the start was refused. -/
theorem Evident.unstarted_iff {found? : Option Bytes} {limits : Limits} {name : String}
    {args : List String}
    {calls : List Call} {fate : Fate} (h : Evident found? limits name args calls fate) :
    (∀ l pid, .spawn l (.ok pid) ∉ calls) ↔ fate = .unresolved ∨
      ∃ cause, fate = .refused cause := by
  cases h with
  | unresolved missing looked => simp [not_started_of_looks looked]
  | unasked found looked nul => simp [not_started_of_looks looked]
  | refused found looked cause => simp [not_started_of_looks looked]
  | @started program looks watch last pid started fate found looked watched ends =>
    constructor
    · intro unstarted
      exact absurd (by simp) (unstarted ⟨program, name, args⟩ pid)
    · intro other
      cases ends <;> simp at other

theorem Evident.limit_eq {found? : Option Bytes} {limits : Limits} {name : String}
    {args : List String} {calls : List Call} {limit : Duration}
    (h : Evident found? limits name args calls (.timedOut limit)) :
    limit = limits.timeout := by
  cases h with
  | started found looked watched ends =>
    cases ends
    rfl

/-- Behind a reserved code is what the code is kept for, or a child that has exited with it. Nothing
is printed about the latter. -/
theorem reserved_codes {host : Host σ} (p : Printout host) (quiet : p.Quiet) {name : String}
    {args : List String}
    (foreign : Builtin.ofArgs? name args = none) (env : Environment) (j : Journal σ)
    (sound : p.sound j.world) :
    ∃ calls offers fate j', dispatch (standardFactories host.journaled) name args env j =
      (.ok fate.code, env, j') ∧
      j'.events = j.events ++ .flush (.ok ()) :: (calls.map .call ++ offers) ∧
      Written (fate.line? name) offers ∧
      Evident (Search.program host.toSystem env.searchPath? (Utf8.encode name)
        (host.flush j.world).2).1
        env.limits name args calls fate ∧
      ((∀ l pid, .spawn l (.ok pid) ∉ calls) ↔ fate = .unresolved ∨
        ∃ cause, fate = .refused cause) ∧
      (fate.code = ExitCode.notFound ↔ fate = .unresolved ∨ fate = .exited 127) ∧
      (fate.code = ExitCode.cannotExecute ↔ (∃ cause, fate = .refused cause) ∨
        fate = .exited 126) ∧
      (fate.code = ExitCode.timedOut ↔ fate = .timedOut env.limits.timeout ∨
        fate = .exited 124) ∧
      (p.printed j'.world = p.printed j.world ↔ ∃ code, fate = .exited code) := by
  obtain ⟨calls, offers, fate, j', ran, events, written, printed, evident⟩ :=
    run_evident p quiet name args env j sound
  rw [dispatch_of_foreign foreign]
  refine ⟨calls, offers, fate, j', ran, events, written, evident, evident.unstarted_iff, ?_,
    ?_, ?_, ?_⟩
  · rw [ExitCode.notFound, Fate.code_eq_iff (by decide) (by decide)]
    simp [or_comm]
  · rw [ExitCode.cannotExecute, Fate.code_eq_iff (by decide) (by decide)]
    simp [or_comm]
  · have own : (∃ limit, fate = .timedOut limit) ↔ fate = .timedOut env.limits.timeout := by
      constructor
      · rintro ⟨limit, rfl⟩
        rw [evident.limit_eq]
      · exact fun h => ⟨_, h⟩
    rw [ExitCode.timedOut, Fate.code_eq_iff (by decide) (by decide), own]
    simp [or_comm]
  · rw [printed, List.append_right_eq_self, Fate.text_eq_nil_iff]

/-- A child of the machine that exits with a reserved code of its own accord. -/
theorem reserved_codes_of_own_exit :
    let env := Environment.ofSearchPath none
    let j := Journal.start (Rig.start (Machine.ofFiles .standard none false) ⟨.empty, 0, 0, 0⟩)
    Rig.printout.Quiet ∧ Builtin.ofArgs? "/usr/bin/env" ["nothing"] = none ∧
      Rig.printout.sound j.world ∧
      ∃ (calls : List Call) (offers : List Event) (j' : Journal Rig),
        dispatch (standardFactories Rig.host.journaled) "/usr/bin/env" ["nothing"] env j =
          (.ok ExitCode.notFound, env, j') ∧
        j'.events = .flush (.ok ()) :: (calls.map .call ++ offers) ∧
        (∃ l pid, .spawn l (.ok pid) ∈ calls) ∧
        Evident (some (Utf8.encode "/usr/bin/env")) env.limits "/usr/bin/env" ["nothing"] calls
          (.exited 127) ∧
        j'.world.writer.capture.bytes = [] := by
  intro env j
  have foreign : Builtin.ofArgs? "/usr/bin/env" ["nothing"] = none := by decide
  have sound : Rig.printout.sound j.world := ⟨rfl, rfl⟩
  obtain ⟨calls, offers, fate, j', ran, events, -, evident, unstarted, missing, -, -, -⟩ :=
    reserved_codes Rig.printout Rig.quiet foreign env j sound
  let ended := dispatch (standardFactories Rig.host.journaled) "/usr/bin/env" ["nothing"] env j
  have found : (Search.program Rig.host.toSystem env.searchPath? (Utf8.encode "/usr/bin/env")
      (Rig.host.flush j.world).2).1 = some (Utf8.encode "/usr/bin/env") := by decide +kernel
  have code : ended.1.toOption = some ExitCode.notFound := by decide +kernel
  have silent : ended.2.2.world.writer.capture.bytes = [] := by decide +kernel
  simp only [ended, ran] at code silent
  rw [found] at evident
  obtain rfl | rfl := missing.mp (Option.some.inj code)
  · cases evident with
    | unresolved missing => cases missing
    | started found looked watched ends => cases ends
  · have begun : ∃ l pid, .spawn l (.ok pid) ∈ calls := by
      simpa using mt unstarted.mp (by simp)
    exact ⟨Rig.quiet, foreign, sound, calls, offers, j', ran, events, begun, evident, silent⟩

section
variable (code : Nat)

def exiting : Rehearsal := ⟨[.ok (some (.exited code))], .ok (), .ok (.exited code), ⟨0⟩⟩

/-- What a child exits with is the answer, be it kept for the shell or not. -/
theorem dispatch_exiting :
    let l : Launch := ⟨Utf8.encode "./own", "./own", []⟩
    dispatch (standardFactories (Rehearsal.host (.exited code)).journaled) "./own" []
      (.ofSearchPath none)
        (.start (exiting code)) =
      (.ok code, .ofSearchPath none, ⟨{ exiting code with polls := [] },
        .flush (.ok ()) :: [.facts l.program (some ⟨true, 0o755⟩), .spawn l (.ok 1),
          .now ⟨0⟩, .poll 1 (.ok (some (.exited code))), .now ⟨0⟩].map .call⟩) := by
  intro l
  let host := Rehearsal.host (.exited code)
  let j₁ : Journal Rehearsal := ⟨exiting code, [.flush (.ok ())]⟩
  let j₂ : Journal Rehearsal :=
    ⟨exiting code, j₁.events ++ [.call (.facts l.program (some ⟨true, 0o755⟩))]⟩
  have found : Search.program host.journaled.toSystem none (Utf8.encode "./own") j₁ =
      (some l.program, j₂) := rfl
  let h : Handle := ⟨"./own", .ofPid 1, ⟨0⟩, .running⟩
  let j₃ : Journal Rehearsal :=
    ⟨exiting code, j₂.events ++ [.call (.spawn l (.ok 1))] ++ [.call (.now ⟨0⟩)]⟩
  have spawned : Handle.spawn host.journaled.toSystem l j₂ = (.ok h, j₃) := by
    have whole : l.hasNul = false := by decide
    rw [Handle.spawn, whole]
    rfl
  let gone : Handle :=
    ⟨"./own", ⟨1, some (.exited code)⟩, ⟨0⟩, .finished (.exited code)⟩
  let j₄ : Journal Rehearsal :=
    ⟨{ exiting code with polls := [] },
      j₃.events ++ [.call (.poll 1 (.ok (some (.exited code))))]⟩
  have seen : h.poll host.journaled.toSystem j₃ = (.ok (some (.exited code)), gone, j₄) := rfl
  let j₅ : Journal Rehearsal := ⟨j₄.world, j₄.events ++ [.call (.now ⟨0⟩)]⟩
  have supervised : supervise host.journaled.toSystem .standard l j₂ =
      (.ok ⟨1, ⟨0⟩, .exited code⟩, j₅) := by
    simp only [supervise, spawned, Handle.wait, Handle.watch_of_outcome seen]
    rfl
  have begun : start host.journaled (.ofSearchPath none) "./own" [] j₁ =
      (.ok ⟨1, ⟨0⟩, .exited code⟩, j₅) := by
    rw [start, show (Environment.ofSearchPath none).searchPath? = none from rfl, found]
    exact supervised
  have flushed : host.journaled.flush (.start (exiting code)) = (.ok (), j₁) := rfl
  rw [dispatch_of_foreign (by decide), run_of_flush flushed, begun, conclude_exit rfl]
  rfl

end

/-- The codes are not kept from the children. One that exits with 127 or 126 is answered like none
at all, and one that exits with 124 like one that was killed. -/
theorem reserved_codes_not_kept :
    let ended (code : Nat) :=
      dispatch (standardFactories (Rehearsal.host (.exited code)).journaled) "./own" []
      (.ofSearchPath none) (.start (exiting code))
    let begun : Event := .call (.spawn ⟨Utf8.encode "./own", "./own", []⟩ (.ok 1))
    ((ended 127).1 = .ok ExitCode.notFound ∧ begun ∈ (ended 127).2.2.events) ∧
      ((ended 126).1 = .ok ExitCode.cannotExecute ∧ begun ∈ (ended 126).2.2.events) ∧
      ((ended 124).1 = .ok ExitCode.timedOut ∧
        ∀ pid k, .call (.kill pid k) ∉ (ended 124).2.2.events) := by
  intro ended begun
  simp only [ended, dispatch_exiting]
  refine ⟨⟨rfl, by simp [begun]⟩, ⟨rfl, by simp [begun]⟩, rfl, fun pid k => by simp⟩

end SupervisedShell.External
