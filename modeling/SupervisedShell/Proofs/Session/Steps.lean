import SupervisedShell.Interpreter

set_option autoImplicit false

namespace SupervisedShell

variable {ι σ : Type}

namespace Interpreter

section
variable {sh : Interpreter σ} {line : String} {env env' : Environment} {s s' : σ}

theorem step_of_ok {code? : Option ExitCode}
    (ran : sh.executeLine line env s = (.ok code?, env', s')) : sh.step line env s =
      (.ok (), env', code?.elim s' fun code => sh.host.log (.exitCode code) s') := by
  cases code? <;> simp [step, bind, Action.bind, Action.attempt, ran, Action.log,
    Action.change, pure, Action.pure]

theorem step_of_error {f : Failure} (ran : sh.executeLine line env s = (.error f, env', s')) :
    sh.step line env s =
      Action.printLine sh.host f.report env' (sh.host.log (.commandFailed f.chain) s') := by
  simp [step, bind, Action.bind, Action.attempt, ran, Action.log, Action.change]

end

theorem executeLine_of_tokens {sh : Interpreter σ} {line name : String} {args : List String}
    (split : tokenize line = .ok ⟨name :: args⟩) (env : Environment) (s : σ) :
    sh.executeLine line env s =
      let (r, env, s) :=
        dispatch sh.factories name args env (sh.host.log (.dispatching name args.length) s)
      (r.map some, env, s) := by
  rcases ran : dispatch sh.factories name args env
    (sh.host.log (.dispatching name args.length) s) with
    ⟨f | code, env', s'⟩ <;>
    simp [executeLine, split, ArgVector.command?, ArgVector.args, bind, Action.bind, Action.log,
      Action.change, ran, Except.map, pure, Action.pure]

theorem endOfLines_eq (sh : Interpreter σ) (r : Log.Record) (env : Environment) (s : σ) :
    sh.endOfLines r env s =
      match sh.host.toOutlet.printLine .blank (sh.host.log r s) with
      | (.ok (), s) => sh.farewell env s
      | (.error e, s) => (.error (.io e), env, s) := by
  rcases printed : sh.host.toOutlet.printLine .blank (sh.host.log r s) with ⟨_ | _, s'⟩ <;>
    simp [endOfLines, bind, Action.bind, Action.log, Action.change, Action.printLine,
      Action.io, printed]

section
variable {sh : Interpreter σ} {source : LineSource ι σ} {env : Environment} {input : ι} {s : σ}

theorem session_of_leaving (leaving : env.shouldExit = true) : sh.session source env input s =
    ((sh.farewell env s).1, (sh.farewell env s).2.1, input, (sh.farewell env s).2.2) := by
  rw [session, if_pos leaving]

variable {s₁ s₂ : σ} {input' : ι} (staying : env.shouldExit = false)
  (flushed : sh.host.flush s = (.ok (), s₁))
include staying flushed

theorem session_of_line {env' : Environment} {s₃ : σ} {line : String}
    (read : source.read sh.prompt input s₁ = (.ok (some line), input', s₂))
    (stepped : sh.step line env s₂ = (.ok (), env', s₃)) :
    sh.session source env input s = sh.session source env' input' s₃ := by
  rw [session]
  simp only [staying, flushed, Bool.false_eq_true, if_false]
  split <;> simp_all

theorem session_of_end (read : source.read sh.prompt input s₁ = (.ok none, input', s₂)) :
    sh.session source env input s = ((sh.endOfLines .endOfInput env s₂).1,
      (sh.endOfLines .endOfInput env s₂).2.1, input',
        (sh.endOfLines .endOfInput env s₂).2.2) := by
  rw [session]
  simp only [staying, flushed, Bool.false_eq_true, if_false]
  split <;> simp_all

theorem session_of_read_error {f : Failure}
    (read : source.read sh.prompt input s₁ = (.error f, input', s₂)) :
    sh.session source env input s = ((sh.endOfLines (.readFailed f.chain) env s₂).1,
      (sh.endOfLines (.readFailed f.chain) env s₂).2.1, input',
      (sh.endOfLines (.readFailed f.chain) env s₂).2.2) := by
  rw [session]
  simp only [staying, flushed, Bool.false_eq_true, if_false]
  split <;> simp_all

end

end Interpreter

inductive Point where
  | flushing
  | asking
  | running (line : String)
  | failed (f : Failure)
  | closing (record : Log.Record)
  | leaving
  | ended (result : Except Failure Unit)

namespace Point

def head (env : Environment) : Point := if env.shouldExit then leaving else flushing

/-- The loop goes on to the point unless it could not print. -/
def after (p : Point) : Except IoError Unit → Point
  | .ok () => p
  | .error e => ended (.error (.io e))

def given : Except Failure (Option String) → Point
  | .ok (some line) => running line
  | .ok none => closing .endOfInput
  | .error f => closing (.readFailed f.chain)

end Point

/-- A deed of the loop, with how it went. -/
inductive Deed where
  | flush (r : Except IoError Unit)
  | read (r : Except Failure (Option String))
  | execute (line : String) (r : Except Failure (Option ExitCode))
  | report (f : Failure) (r : Except IoError Unit)
  | close (r : Except IoError Unit)
  | farewell (r : Except IoError Unit)

structure Config (σ : Type) where
  point : Point
  env : Environment
  input : Recording
  world : σ

namespace Interpreter

variable (sh : Interpreter σ)

def print (l : Line) (c : Config σ) (p : Point) : Except IoError Unit × Config σ :=
  let (r, s) := sh.host.toOutlet.printLine l c.world
  (r, { c with point := p.after r, world := s })

def next (c : Config σ) : Option (Deed × Config σ) :=
  match c.point with
  | .flushing =>
    let (r, s) := sh.host.flush c.world
    some (.flush r, { c with point := Point.asking.after r, world := s })
  | .asking =>
    let (r, input) := c.input.read sh.prompt
    some (.read r, { c with point := .given r, input := input })
  | .running line =>
    match sh.executeLine line c.env c.world with
    | (.ok code?, env, s) =>
      let s := code?.elim s fun code => sh.host.log (.exitCode code) s
      some (.execute line (.ok code?), ⟨.head env, env, c.input, s⟩)
    | (.error f, env, s) => some (.execute line (.error f), ⟨.failed f, env, c.input, s⟩)
  | .failed f =>
    let c := { c with world := sh.host.log (.commandFailed f.chain) c.world }
    let (r, c) := sh.print f.report c (.head c.env)
    some (.report f r, c)
  | .closing record =>
    let c := { c with world := sh.host.log record c.world }
    let (r, c) := sh.print .blank c .leaving
    some (.close r, c)
  | .leaving =>
    let (r, c) := sh.print goodbye c (.ended (.ok ()))
    some (.farewell r, c)
  | .ended _ => none

/-- The deeds that lead from one configuration to another. -/
inductive Course : Config σ → List Deed → Config σ → Prop where
  | rest (c : Config σ) : Course c [] c
  | deed {c c' c'' : Config σ} {d : Deed} {ds : List Deed} :
    sh.next c = some (d, c') → Course c' ds c'' → Course c (d :: ds) c''

theorem Course.append {sh : Interpreter σ} {c c' c'' : Config σ} {ds es : List Deed}
    (first : sh.Course c ds c') (second : sh.Course c' es c'') : sh.Course c (ds ++ es) c'' := by
  induction first with
  | rest c => exact second
  | deed done _ ih => exact .deed done (ih second)

end Interpreter

end SupervisedShell
