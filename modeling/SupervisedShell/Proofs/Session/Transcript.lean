import SupervisedShell.Proofs.Session.Printout
import SupervisedShell.Proofs.Session.Steps

set_option autoImplicit false

namespace SupervisedShell

variable {ι σ : Type}

/-- Where a session stands between two lines, with the text that it has printed. -/
structure Stage (σ : Type) where
  env : Environment
  world : σ
  text : Bytes

/-- The text behind the last line. An empty line stands for a request to leave that nobody made. -/
def Stage.parting (st : Stage σ) : Bytes :=
  (if st.env.shouldExit then [] else Utf8.encode "\n") ++ Utf8.encode "Exiting sword-shell.\n"

namespace Interpreter

variable (sh : Interpreter σ) (p : Printout sh.host)

/-- A line is run on what the lines before it have left, and reported if it failed. -/
def advance (st : Stage σ) (line : String) : Stage σ :=
  let s := (sh.host.flush st.world).2
  match sh.executeLine line st.env s with
  | (.ok code?, env, s') =>
    ⟨env, code?.elim s' fun code => sh.host.log (.exitCode code) s', st.text ++ p.gained s s'⟩
  | (.error f, env, s') =>
    ⟨env, (sh.host.toOutlet.printLine f.report (sh.host.log (.commandFailed f.chain) s')).2,
      st.text ++ p.gained s s' ++ Utf8.encode (s!"Error: {f.message}" ++ "\n")⟩

/-- What becomes of the world once no line is run any more. -/
def finish (failsAtEnd : Bool) (st : Stage σ) : σ :=
  if st.env.shouldExit then (sh.farewell st.env st.world).2.2
  else
    let record := if failsAtEnd then .readFailed Failure.inputGone.chain else .endOfInput
    (sh.endOfLines record st.env (sh.host.flush st.world).2).2.2

/-- The text of the stage is what was printed since the start. -/
def Printed (start : Bytes) (st : Stage σ) : Prop :=
  p.sound st.world ∧ p.printed st.world = start ++ st.text

variable {sh p} {start : Bytes} {st : Stage σ}

theorem farewell_printed (env : Environment) {s : σ} (sound : p.sound s) :
    ∃ s', sh.farewell env s = (.ok (), env, s') ∧
      p.printed s' = p.printed s ++ Utf8.encode "Exiting sword-shell.\n" := by
  obtain ⟨s', told, -, printed⟩ := p.printLine goodbye sound
  refine ⟨s', ?_, printed⟩
  rw [farewell, Action.printLine, Action.io, told]

theorem endOfLines_printed (record : Log.Record) (env : Environment) {s : σ} (sound : p.sound s) :
    ∃ s', sh.endOfLines record env s = (.ok (), env, s') ∧
      p.printed s' = p.printed s ++ (Utf8.encode "\n" ++ Utf8.encode "Exiting sword-shell.\n") := by
  obtain ⟨sound₁, printed₁⟩ := p.log record s sound
  obtain ⟨s₂, closed, sound₂, printed₂⟩ := p.printLine .blank sound₁
  obtain ⟨s', parted, printed'⟩ := farewell_printed env sound₂
  refine ⟨s', ?_, ?_⟩
  · rw [endOfLines_eq, closed]
    exact parted
  · rw [printed', printed₂, printed₁, List.append_assoc]
    rfl

theorem advance_printed (respects : ∀ f ∈ sh.factories, p.Respects f)
    (h : sh.Printed p start st) (line : String) :
    sh.Printed p start (sh.advance p st line) := by
  obtain ⟨sound, printed⟩ := h
  obtain ⟨s₁, flushed, sound₁, printed₁⟩ := p.flush st.world sound
  have ran := Printout.executeLine_tame respects line st.env s₁ sound₁
  rcases outcome : sh.executeLine line st.env s₁ with ⟨f | code?, env, s₂⟩
  · rw [outcome] at ran
    obtain ⟨sound₃, printed₃⟩ := p.log (.commandFailed f.chain) s₂ ran.1
    obtain ⟨s₄, told, sound₄, printed₄⟩ := p.printLine f.report sound₃
    simp only [advance, flushed, outcome, told]
    refine ⟨sound₄, ?_⟩
    rw [printed₄, Failure.text_report, printed₃, ran.printed_eq, printed₁, printed]
    simp only [List.append_assoc]
  · rw [outcome] at ran
    simp only [advance, flushed, outcome]
    cases code? with
    | none =>
      refine ⟨ran.1, ?_⟩
      rw [Option.elim_none, ran.printed_eq, printed₁, printed, List.append_assoc]
    | some code =>
      obtain ⟨sound₃, printed₃⟩ := p.log (.exitCode code) s₂ ran.1
      refine ⟨sound₃, ?_⟩
      rw [Option.elim_some, printed₃, ran.printed_eq, printed₁, printed, List.append_assoc]

theorem session_advance (respects : ∀ f ∈ sh.factories, p.Respects f)
    (h : sh.Printed p start st)
    (staying : st.env.shouldExit = false) (line : String) (lines prompts : List String)
    (failsAtEnd : Bool) :
    sh.session (Recording.source σ) st.env ⟨line :: lines, prompts, failsAtEnd⟩ st.world =
      sh.session (Recording.source σ) (sh.advance p st line).env
        ⟨lines, prompts ++ [sh.prompt], failsAtEnd⟩ (sh.advance p st line).world := by
  obtain ⟨s₁, flushed, sound₁, -⟩ := p.flush st.world h.1
  refine session_of_line staying flushed rfl ?_
  rcases outcome : sh.executeLine line st.env s₁ with ⟨f | code?, env, s₂⟩
  · have ran := Printout.executeLine_tame respects line st.env s₁ sound₁
    rw [outcome] at ran
    obtain ⟨sound₃, -⟩ := p.log (.commandFailed f.chain) s₂ ran.1
    obtain ⟨s₄, told, -⟩ := p.printLine f.report sound₃
    simp only [step_of_error outcome, Action.printLine, Action.io, advance, flushed, outcome, told]
  · simp only [step_of_ok outcome, advance, flushed, outcome]

theorem session_leaving (h : sh.Printed p start st) (leaving : st.env.shouldExit = true)
    (input : ι) (source : LineSource ι σ) (failsAtEnd : Bool) :
    sh.session source st.env input st.world = (.ok (), st.env, input, sh.finish failsAtEnd st) ∧
      p.printed (sh.finish failsAtEnd st) = start ++ st.text ++ st.parting := by
  obtain ⟨s', parted, printed⟩ := farewell_printed st.env h.1
  simp only [session_of_leaving leaving, finish, Stage.parting, leaving, if_true, parted,
    printed, h.2, List.nil_append, and_self]

theorem session_ended (h : sh.Printed p start st) (staying : st.env.shouldExit = false)
    (prompts : List String) (failsAtEnd : Bool) :
    sh.session (Recording.source σ) st.env ⟨[], prompts, failsAtEnd⟩ st.world =
        (.ok (), st.env, ⟨[], prompts ++ [sh.prompt], failsAtEnd⟩, sh.finish failsAtEnd st) ∧
      p.printed (sh.finish failsAtEnd st) = start ++ st.text ++ st.parting := by
  obtain ⟨s₁, flushed, sound₁, printed₁⟩ := p.flush st.world h.1
  cases failsAtEnd with
  | false =>
    obtain ⟨s', closed, printed⟩ := endOfLines_printed .endOfInput st.env sound₁
    rw [session_of_end staying flushed rfl]
    simp [finish, Stage.parting, staying, flushed, closed, printed, printed₁, h.2, Recording.read]
  | true =>
    obtain ⟨s', closed, printed⟩ :=
      endOfLines_printed (.readFailed Failure.inputGone.chain) st.env sound₁
    rw [session_of_read_error staying flushed rfl]
    simp [finish, Stage.parting, staying, flushed, closed, printed, printed₁, h.2, Recording.read]

theorem session_from (respects : ∀ f ∈ sh.factories, p.Respects f) (h : sh.Printed p start st)
    (lines prompts : List String) (failsAtEnd : Bool) :
    let stage (k : Nat) := (lines.take k).foldl (sh.advance p) st
    ∃ n ≤ lines.length, (∀ k < n, (stage k).env.shouldExit = false) ∧
      (n < lines.length → (stage n).env.shouldExit = true) ∧
      sh.session (Recording.source σ) st.env ⟨lines, prompts, failsAtEnd⟩ st.world =
        (.ok (), (stage n).env, ⟨lines.drop n, prompts ++
          List.replicate (if (stage n).env.shouldExit then n else n + 1) sh.prompt, failsAtEnd⟩,
          sh.finish failsAtEnd (stage n)) ∧
      p.printed (sh.finish failsAtEnd (stage n)) =
        start ++ (stage n).text ++ (stage n).parting := by
  -- The induction is on the lines, over every stage that they may be left to.
  induction lines generalizing st prompts with
  | nil =>
    refine ⟨0, Nat.le_refl 0, by simp, by simp, ?_⟩
    cases exit : st.env.shouldExit with
    | true => simpa [exit] using session_leaving h exit _ (Recording.source σ) failsAtEnd
    | false => simpa [exit] using session_ended h exit prompts failsAtEnd
  | cons line lines ih =>
    cases exit : st.env.shouldExit with
    | true =>
      refine ⟨0, Nat.zero_le _, by simp, fun _ => exit, ?_⟩
      simpa [exit] using session_leaving h exit _ (Recording.source σ) failsAtEnd
    | false =>
      obtain ⟨n, bound, before, behind, ended, printed⟩ := ih (advance_printed respects h line)
        (prompts ++ [sh.prompt])
      refine ⟨n + 1, Nat.succ_le_succ bound, ?_, fun more => behind (Nat.lt_of_succ_lt_succ more),
        ?_, printed⟩
      · intro k hk
        cases k with
        | zero => exact exit
        | succ k => exact before k (Nat.lt_of_succ_lt_succ hk)
      · have shown (b : Bool) : prompts ++ [sh.prompt] ++
            List.replicate (if b then n else n + 1) sh.prompt =
            prompts ++ List.replicate (if b then n + 1 else n + 1 + 1) sh.prompt := by
          cases b <;> simp [List.replicate_succ]
        rw [session_advance respects h exit, ended, shown]
        rfl

/-- A session over recorded lines, on a host that never fails to print. -/
theorem session_transcript (respects : ∀ f ∈ sh.factories, p.Respects f) (env : Environment)
    (input : Recording) {s : σ} (sound : p.sound s) :
    let stage (k : Nat) := (input.lines.take k).foldl (sh.advance p) ⟨env, s, []⟩
    ∃ n ≤ input.lines.length, (∀ k < n, (stage k).env.shouldExit = false) ∧
      (n < input.lines.length → (stage n).env.shouldExit = true) ∧
      sh.session (Recording.source σ) env input s =
        (.ok (), (stage n).env, ⟨input.lines.drop n, input.prompts ++
          List.replicate (if (stage n).env.shouldExit then n else n + 1) sh.prompt,
            input.failsAtEnd⟩,
          sh.finish input.failsAtEnd (stage n)) ∧
      p.printed (sh.finish input.failsAtEnd (stage n)) =
        p.printed s ++ (stage n).text ++ (stage n).parting := by
  have starts : sh.Printed p (p.printed s) ⟨env, s, []⟩ := ⟨sound, (List.append_nil _).symm⟩
  exact session_from respects starts input.lines input.prompts input.failsAtEnd

/-- A plug-in that asks to leave, before the commands that a shell has by itself, on a rig whose
input breaks off. -/
theorem session_transcript_on_rig :
    let quit : Plugin := ⟨some "quit", "bye ", true, true, none, 0⟩
    let sh : Interpreter Rig :=
      ⟨Rig.host, quit.factory Rig.host :: standardFactories Rig.host, "> "⟩
    let s := Rig.start (Machine.ofFiles .standard none false) ⟨.empty, 0, 0, 0⟩
    let env := Environment.ofSearchPath none
    let stage (k : Nat) :=
      (["fib 10", "quit", "fib 1"].take k).foldl (sh.advance Rig.printout) ⟨env, s, []⟩
    (∀ f ∈ sh.factories, Rig.printout.Respects f) ∧ Rig.printout.sound s ∧
      ∃ n ≤ 3, ∃ input s', sh.session (Recording.source Rig) env
          (.ofLines ["fib 10", "quit", "fib 1"] true) s = (.ok (), (stage n).env, input, s') ∧
        input.remaining = 3 - n ∧
        s'.writer.capture.bytes = (stage n).text ++ (stage n).parting := by
  intro quit sh s env stage
  have respects : ∀ f ∈ sh.factories, Rig.printout.Respects f := by
    refine List.forall_mem_cons.mpr ⟨Printout.respects_plugin quit, ?_⟩
    exact Printout.respects_standard Rig.quiet
  have sound : Rig.printout.sound s := ⟨rfl, rfl⟩
  obtain ⟨n, bound, -, -, ended, printed⟩ :=
    session_transcript respects env (.ofLines ["fib 10", "quit", "fib 1"] true) sound
  refine ⟨respects, sound, n, bound, _, _, ended, ?_, printed⟩
  simp [Recording.remaining, Recording.ofLines]

end Interpreter

end SupervisedShell
