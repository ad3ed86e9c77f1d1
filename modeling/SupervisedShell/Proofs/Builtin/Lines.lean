import Mathlib.Tactic.NormNum.NatFib
import SupervisedShell.Proofs.Builtin.Table
import SupervisedShell.Proofs.Session.Attempt
import SupervisedShell.Proofs.Session.Printout
import SupervisedShell.Proofs.Session.Steps
import SupervisedShell.Proofs.Text.Tokens
/-!
Lines for the built-in commands that print. A line has one answer on every host: its result, the
error of the outlet where the result was lost, or a message in place of a result.
-/

set_option autoImplicit false

namespace SupervisedShell

variable {σ : Type}

/-- From the first world to the second by records of the log. -/
def Host.Noted (host : Host σ) (s s' : σ) : Prop :=
  ∃ records : List Log.Record, s' = records.foldl (fun s r => host.log r s) s

namespace Host.Noted

theorem one (host : Host σ) (r : Log.Record) (s : σ) : host.Noted s (host.log r s) :=
  ⟨[r], rfl⟩

theorem behind (host : Host σ) (r : Log.Record) (records : List Log.Record) (s : σ) :
    host.Noted s (records.foldl (fun s r => host.log r s) (host.log r s)) := ⟨r :: records, rfl⟩

theorem same {host : Host σ} {p : Printout host} {s s' : σ} (h : host.Noted s s')
    (sound : p.sound s) :
    p.sound s' ∧ p.printed s' = p.printed s := by
  obtain ⟨records, rfl⟩ := h
  induction records generalizing s with
  | nil => exact ⟨sound, rfl⟩
  | cons r records ih =>
    obtain ⟨sound₁, printed₁⟩ := p.log r s sound
    obtain ⟨sound', printed'⟩ := ih sound₁
    exact ⟨sound', printed'.trans printed₁⟩

end Host.Noted

namespace Builtin

def reported (q : Except IoError Unit) : Except Failure (Option ExitCode) :=
  (q.map fun _ => some ExitCode.failure).mapError .io

inductive Answers (host : Host σ) (name : String) (args : List String) :
    σ → Except Failure (Option ExitCode) → σ → Prop where
  | printed {text : String} {s s₁ s' : σ} (yields : Yields host.grants name args text)
      (noted : host.Noted s s₁)
      (told : host.toOutlet.printLine (.ofText text) s₁ = (.ok (), s')) :
    Answers host name args s (.ok (some 0)) s'
  | lost {text : String} {e : IoError} {q : Except IoError Unit} {s s₁ s₂ s₃ s' : σ}
      (yields : Yields host.grants name args text) (noted : host.Noted s s₁)
      (untold : host.toOutlet.printLine (.ofText text) s₁ = (.error e, s₂))
      (noted' : host.Noted s₂ s₃)
      (told : host.toOutlet.printLine (.ofTexts e.pieces) s₃ = (q, s')) :
    Answers host name args s (reported q) s'
  | refused {message : String} {q : Except IoError Unit} {s s₁ s' : σ}
      (complains : Complains host.grants name args message) (noted : host.Noted s s₁)
      (told : host.toOutlet.printLine (.ofText message) s₁ = (q, s')) :
    Answers host name args s (reported q) s'

section
variable (host : Host σ) (env : Environment) (s : σ)

theorem explain_eq (b : Builtin) (message : Line) (chain : String) :
    b.explain host message chain env s =
    let (q, s) := host.toOutlet.printLine message (host.log (.builtinFailed b.name chain) s)
    ((q.map fun _ => ExitCode.failure).mapError .io, env, s) := by
  rcases told : host.toOutlet.printLine message (host.log (.builtinFailed b.name chain) s)
    with ⟨_ | _, s'⟩ <;>
    simp [explain, bind, Action.bind, Action.log, Action.change, Action.printLine, Action.io,
      told, Except.map, pure, Action.pure]

theorem reject_eq (e : BuiltinError) : reject host e env s =
    let (q, s) := host.toOutlet.printLine (.ofText e.message) s
    ((q.map fun _ => ExitCode.failure).mapError .io, env, s) := by
  rcases told : host.toOutlet.printLine (.ofText e.message) s with ⟨_ | _, s'⟩ <;>
    simp [reject, bind, Action.bind, Action.printLine, Action.io, told, Except.map, pure,
      Action.pure]

theorem run_of_line {b : Builtin} {text : String} (line : b.result host.grants = .ok (some text)) :
    b.run host env s =
      match host.toOutlet.printLine (.ofText text) s with
      | (.ok (), s) => (.ok ExitCode.success, env, s)
      | (.error e, s) => b.explain host (.ofTexts e.pieces) (Failure.io e).chain env s := by
  rcases told : host.toOutlet.printLine (.ofText text) s with ⟨_ | _, s'⟩ <;>
    simp [run, line, bind, Action.bind, Action.attempt, Action.printLine, Action.io, told,
      Failure.pieces, pure, Action.pure]

theorem run_of_error {b : Builtin} {e : BuiltinError} (none : b.result host.grants = .error e) :
    b.run host = b.explain host (.ofText e.message) e.chain := by
  simp only [run, none]

end

theorem map_reported (q : Except IoError Unit) :
    ((q.map fun _ => ExitCode.failure).mapError Failure.io).map some = reported q := by
  cases q <;> rfl

end Builtin

namespace Interpreter

open Builtin (Prints Refuses Yields Complains Answers)

variable {host : Host σ} {prompt line name : String} {args : List String}

section
variable (split : tokenize line = .ok ⟨name :: args⟩) (env : Environment) (s : σ)
include split

theorem executeLine_of_made {made : Except BuiltinError Builtin × List Log.Record}
    (known : Builtin.ofArgs? name args = some made) :
    (standard host prompt).executeLine line env s =
      let (r, env, s) := (match made.1 with
        | .ok b => b.run host
        | .error e => Builtin.reject host e : Command σ) env
          (made.2.foldl (fun s r => host.log r s) (host.log (.dispatching name args.length) s))
      (r.map some, env, s) := by
  have found : dispatch (standardFactories host) name args = Builtin.perform host made :=
    dispatch_of_builtin known
  rw [executeLine_of_tokens split]
  simp only [standard]
  rw [found]
  rfl

theorem executeLine_of_yields {text : String} (yields : Yields host.grants name args text) :
    ∃ r s',
    (standard host prompt).executeLine line env s = (r, env, s') ∧
      Answers host name args s r s' := by
  obtain ⟨⟨e | b, records⟩, known, result⟩ := yields.made
  · cases result
  · have noted := Host.Noted.behind host (.dispatching name args.length) records s
    rw [executeLine_of_made split env s known]
    generalize records.foldl (fun s r => host.log r s)
      (host.log (.dispatching name args.length) s) = s₁ at noted
    simp only [Builtin.run_of_line host env s₁ result]
    rcases told : host.toOutlet.printLine (.ofText text) s₁ with ⟨e | _, s₂⟩
    · have noted' := Host.Noted.one host (.builtinFailed b.name (Failure.io e).chain) s₂
      simp only [Builtin.explain_eq, Builtin.map_reported]
      exact ⟨_, _, rfl, .lost yields noted told noted' rfl⟩
    · exact ⟨_, _, rfl, .printed yields noted told⟩

theorem executeLine_of_complains {message : String}
    (complains : Complains host.grants name args message) :
    ∃ r s', (standard host prompt).executeLine line env s = (r, env, s') ∧
      Answers host name args s r s' := by
  obtain ⟨⟨e' | b, records⟩, e, known, result, rfl⟩ := complains.made
  · obtain rfl : e' = e := Except.error.inj result
    have noted := Host.Noted.behind host (.dispatching name args.length) records s
    rw [executeLine_of_made split env s known]
    simp only [Builtin.reject_eq, Builtin.map_reported]
    exact ⟨_, _, rfl, .refused complains noted rfl⟩
  · rw [executeLine_of_made split env s known]
    simp only [Builtin.run_of_error host result, Builtin.explain_eq, Builtin.map_reported]
    -- A result that there is not is also noted in the log.
    refine ⟨_, _, rfl, .refused complains ?_ rfl⟩
    exact ⟨.dispatching name args.length :: records ++ [.builtinFailed b.name e.chain], by simp⟩

variable (host prompt)

theorem executeLine_answers (own : name = "fib" ∨ name = "caesar") : ∃ r s',
    (standard host prompt).executeLine line env s = (r, env, s') ∧
      Answers host name args s r s' := by
  rcases Builtin.yields_or_complains host.grants own args
    with ⟨text, yields⟩ | ⟨message, complains⟩
  · exact executeLine_of_yields split env s yields
  · exact executeLine_of_complains split env s complains

end

/-- The line prints one line and ends with a code. It leaves the environment alone. -/
def Writes (sh : Interpreter σ) (p : Printout sh.host) (line : String) (env : Environment) (s : σ)
    (text : String) (code : ExitCode) : Prop :=
  ∃ s', sh.executeLine line env s = (.ok (some code), env, s') ∧ p.sound s' ∧
    p.printed s' = p.printed s ++ Utf8.encode (text ++ "\n")

section
variable {p : Printout host} {s s' : σ} {r : Except Failure (Option ExitCode)}

theorem told_on_printout {s₁ : σ} (sound : p.sound s) (noted : host.Noted s s₁) {l : Line}
    {q : Except IoError Unit} (told : host.toOutlet.printLine l s₁ = (q, s')) :
    q = .ok () ∧ p.sound s' ∧ p.printed s' = p.printed s ++ Utf8.encode (l.text ++ "\n") := by
  obtain ⟨sound₁, same⟩ := noted.same sound
  obtain ⟨s₂, printed, sound₂, added⟩ := p.printLine l sound₁
  rw [told, Prod.mk.injEq] at printed
  obtain ⟨rfl, rfl⟩ := printed
  exact ⟨rfl, sound₂, by rw [added, same]⟩

theorem answer_on_printout (sound : p.sound s) (h : Answers host name args s r s') : ∃ text code,
    (Yields host.grants name args text ∧ code = 0 ∨ Complains host.grants name args text ∧
      code = 1) ∧
      r = .ok (some code) ∧ p.sound s' ∧
        p.printed s' = p.printed s ++ Utf8.encode (text ++ "\n") := by
  cases h with
  | @printed text _ _ _ yields noted told =>
    have after := (told_on_printout sound noted told).2
    rw [Line.text_ofText] at after
    exact ⟨text, 0, .inl ⟨yields, rfl⟩, rfl, after⟩
  | lost yields noted untold =>
    obtain ⟨failed, -⟩ := told_on_printout sound noted untold
    cases failed
  | @refused message q _ _ _ complains noted told =>
    obtain ⟨rfl, after⟩ := told_on_printout sound noted told
    rw [Line.text_ofText] at after
    exact ⟨message, 1, .inr ⟨complains, rfl⟩, rfl, after⟩

theorem writes_by_table (own : name = "fib" ∨ name = "caesar")
    (split : tokenize line = .ok ⟨name :: args⟩)
    (env : Environment) (sound : p.sound s) : ∃ text code,
      (Yields host.grants name args text ∧ code = 0 ∨ Complains host.grants name args text ∧
        code = 1) ∧
        (standard host prompt).Writes p line env s text code := by
  obtain ⟨r, s', ran, answers⟩ := executeLine_answers host prompt split env s own
  obtain ⟨text, code, row, rfl, after⟩ := answer_on_printout sound answers
  exact ⟨text, code, row, s', ran, after⟩

theorem writes_of_yields {text : String} (own : name = "fib" ∨ name = "caesar")
    (yields : Yields host.grants name args text) (split : tokenize line = .ok ⟨name :: args⟩)
    (env : Environment) (sound : p.sound s) :
    (standard host prompt).Writes p line env s text 0 := by
  obtain ⟨text', code, ⟨yields', rfl⟩ | ⟨complains, -⟩, written⟩ :=
    writes_by_table own split env sound
  · rwa [yields.unique yields']
  · exact absurd complains yields.not_complains

theorem writes_of_complains {message : String} (own : name = "fib" ∨ name = "caesar")
    (complains : Complains host.grants name args message)
    (split : tokenize line = .ok ⟨name :: args⟩) (env : Environment) (sound : p.sound s) :
    (standard host prompt).Writes p line env s message 1 := by
  obtain ⟨text', code, ⟨yields, -⟩ | ⟨complains', rfl⟩, written⟩ :=
    writes_by_table own split env sound
  · exact absurd complains yields.not_complains
  · rwa [complains.unique complains']

/-- Built-in lines on a host that never fails to print. -/
theorem builtin_line_meaning (p : Printout host) (prompt : String)
    (tokens : (words line.toList).map String.ofList = name :: args) (few : args.length < 100)
    (own : name = "fib" ∨ name = "caesar") (env : Environment) (sound : p.sound s) :
    ((∃ text, Prints name args text) ∨ ∃ message, Refuses name args message) ∧
      (∀ text, Prints name args text → Builtin.Granted host.grants name args →
        (standard host prompt).Writes p line env s text 0) ∧
      (∀ message, Refuses name args message →
        (standard host prompt).Writes p line env s message 1) ∧
      ∀ text, Prints name args text → ¬ Builtin.Granted host.grants name args →
        (standard host prompt).Writes p line env s "Error: Memory allocation failed." 1 := by
  have split := tokenize_of_words tokens few
  exact ⟨Builtin.prints_or_refuses own args,
    fun _ prints granted => writes_of_yields own ⟨prints, granted⟩ split env sound,
    fun _ refuses => writes_of_complains own (.refused refuses) split env sound,
    fun _ prints denied => writes_of_complains own (.starved prints denied) split env sound⟩

/-- The last Fibonacci number that there is room for, and the first that there is none for. -/
theorem builtin_line_meaning_on_rig :
    let env := Environment.ofSearchPath none
    let s := Rig.start (Machine.ofFiles .standard none false) ⟨.empty, 0, 0, 0⟩
    Rig.printout.sound s ∧
      (words " fib  +092".toList).map String.ofList = ["fib", "+092"] ∧
      (standard Rig.host "> ").Writes Rig.printout " fib  +092" env s "7540113804746346429" 0 ∧
      (words "fib 93".toList).map String.ofList = ["fib", "93"] ∧
      (standard Rig.host "> ").Writes Rig.printout "fib 93" env s
        "Error: Fibonacci number too large." 1 := by
  intro env s
  have sound : Rig.printout.sound s := ⟨rfl, rfl⟩
  have last : Nat.fib 92 = 7540113804746346429 := by norm_num
  have next : Nat.fib 93 = 12200160415121876738 := by norm_num
  have shown : toString (Nat.fib 92) = "7540113804746346429" := by rw [last]; decide
  have prints : Prints "fib" ["+092"] "7540113804746346429" := by
    have spelled : Decimal.Spells "+092".toList (92 : Nat) :=
      .plus (Decimal.digits_iff.mpr ⟨by decide, by decide⟩)
    exact shown ▸ .fib spelled (by decide) (by omega)
  have refuses : Refuses "fib" ["93"] "Error: Fibonacci number too large." := by
    have spelled : Decimal.Spells "93".toList (93 : Nat) :=
      .plain (Decimal.digits_iff.mpr ⟨by decide, by decide⟩)
    exact .fibResult spelled (by decide) (by omega)
  have tokens : (words " fib  +092".toList).map String.ofList = ["fib", "+092"] := by decide
  have tokens' : (words "fib 93".toList).map String.ofList = ["fib", "93"] := by decide
  have meaning := builtin_line_meaning Rig.printout "> " tokens (by decide) (.inl rfl) env sound
  have meaning' := builtin_line_meaning Rig.printout "> " tokens' (by decide) (.inl rfl) env sound
  have granted : Builtin.Granted Rig.host.grants "fib" ["+092"] := fun other => nomatch other
  exact ⟨sound, tokens, meaning.2.1 _ prints granted, tokens', meaning'.2.2.1 _ refuses⟩

end

end Interpreter

end SupervisedShell
