import SupervisedShell.Proofs.Session.Attempt
import SupervisedShell.Proofs.Session.Order
import SupervisedShell.Proofs.Text.Tokens
/-!
What the uses of a shell without plug-ins do to its environment: nothing, but for the request to
leave, which is made by commands of one name and never taken back.
-/

set_option autoImplicit false

namespace SupervisedShell

variable {ι σ α β : Type}

def Environment.leaving (env : Environment) : Environment := { env with shouldExit := true }

/-- From the first environment to the second, where the request to leave is made if and only if it
was made before or is asked for now. -/
structure Environment.Follows (asked : Prop) (env env' : Environment) : Prop where
  searchPath : env'.searchPath? = env.searchPath?
  limits : env'.limits = env.limits
  leaves : env'.shouldExit = true ↔ env.shouldExit = true ∨ asked

namespace Environment.Follows

variable {asked later : Prop} {env env' env'' : Environment}

theorem same (unasked : asked → env.shouldExit = true) : Follows asked env env :=
  ⟨rfl, rfl, .inl, fun h => h.elim id unasked⟩

theorem left (h : asked) : Follows asked env env.leaving :=
  ⟨rfl, rfl, fun _ => .inr h, fun _ => rfl⟩

theorem trans (first : Follows asked env env') (second : Follows later env' env'') :
    Follows (asked ∨ later) env env'' where
  searchPath := second.searchPath.trans first.searchPath
  limits := second.limits.trans first.limits
  leaves := by rw [second.leaves, first.leaves, or_assoc]

theorem eq_of_unasked (h : Follows asked env env') (unasked : ¬ asked) : env' = env := by
  have leaves : env'.shouldExit = env.shouldExit :=
    Bool.eq_iff_iff.mpr (h.leaves.trans (or_iff_left unasked))
  cases env
  cases env'
  rw [Environment.mk.injEq]
  exact ⟨h.searchPath, h.limits, leaves⟩

theorem congr (h : Follows asked env env') (same : asked ↔ later) : Follows later env env' :=
  ⟨h.searchPath, h.limits, h.leaves.trans (or_congr_right same)⟩

end Environment.Follows

def Action.Still (x : Action σ α) : Prop := ∀ env s, (x env s).2.1 = env

namespace Action.Still

theorem bind {x : Action σ α} {f : α → Action σ β} (hx : x.Still) (hf : ∀ a, (f a).Still) :
    (x.bind f).Still := by
  intro env s
  have first := hx env s
  rcases ran : x env s with ⟨e | a, env', s'⟩
  · rw [ran] at first
    simpa only [Action.bind, ran] using first
  · rw [ran] at first
    simpa only [Action.bind, ran] using (hf a env' s').trans first

theorem io (f : σ → Except IoError α × σ) : (Action.io f).Still := by
  intro env s
  rcases answered : f s with ⟨e | a, s'⟩ <;> simp only [Action.io, answered]

variable {host : Host σ}

theorem printLine (l : Line) : (Action.printLine host l).Still := io _

theorem explain (b : Builtin) (message : Line) (chain : String) :
    (b.explain host message chain).Still := by
  unfold Builtin.explain
  refine bind (fun _ _ => rfl) fun _ => ?_
  exact bind (printLine message) fun _ _ _ => rfl

theorem builtin {b : Builtin} (other : b ≠ .exit) : (b.run host).Still := by
  unfold Builtin.run
  split
  · exact explain b _ _
  · next line _ =>
    have printed : (Action.printLine host (.ofText line)).attempt.Still := printLine _
    refine bind printed fun result => ?_
    cases result with
    | ok _ => exact fun _ _ => rfl
    | error f => exact explain b _ _
  · next silent =>
    -- Only `exit` has nothing to print.
    cases b with
    | exit => exact absurd rfl other
    | fib n =>
      simp only [Builtin.result] at silent
      split at silent <;> simp at silent
    | caesar shift words =>
      simp only [Builtin.result, Caesar.reserved] at silent
      split at silent <;> simp [Except.map] at silent

theorem perform {made : Except BuiltinError Builtin × List Log.Record}
    (other : made.1 ≠ .ok .exit) :
    (Builtin.perform host made).Still := by
  unfold Builtin.perform
  refine bind (fun _ _ => rfl) fun _ => ?_
  split
  · next b known => exact builtin fun leaving => other (by rw [known, leaving])
  · exact bind (printLine _) fun _ _ _ => rfl

theorem external (name : String) (args : List String) : (External.run host name args).Still := by
  unfold External.run
  refine bind (io _) fun _ => bind (fun _ _ => rfl) fun env => ?_
  refine bind (fun _ _ => rfl) fun result => ?_
  cases result with
  | error e => exact bind (printLine _) fun _ _ _ => rfl
  | ok r =>
    refine bind (fun _ _ => rfl) fun _ => ?_
    split
    · exact bind (printLine _) fun _ _ _ => rfl
    · exact fun _ _ => rfl

end Action.Still

theorem Builtin.ofArgs?_exit_iff {name : String} {args : List String}
    {made : Except BuiltinError Builtin × List Log.Record}
    (known : Builtin.ofArgs? name args = some made) :
    made.1 = .ok .exit ↔ name = "exit" := by
  unfold Builtin.ofArgs? at known
  split at known
  · next fib =>
    cases known
    have other : (Builtin.fibOfArgs args).1 ≠ .ok .exit := by
      unfold Builtin.fibOfArgs
      split
      · split <;> simp
      · simp
    simp [fib, other]
  · split at known
    · next caesar =>
      cases known
      have other : (Builtin.caesarOfArgs args).1 ≠ .ok .exit := by
        unfold Builtin.caesarOfArgs
        split
        · split
          · split <;> simp
          · simp
        · simp
      simp [caesar, other]
    · split at known
      · next exit =>
        cases known
        simp [exit, Builtin.exitOfArgs]
      · simp at known

theorem dispatch_follows (host : Host σ) (name : String) (args : List String)
    (env : Environment) (s : σ) :
    env.Follows (name = "exit") (dispatch (standardFactories host) name args env s).2.1 := by
  cases known : Builtin.ofArgs? name args with
  | none =>
    have other : name ≠ "exit" := by
      rintro rfl
      simp [Builtin.ofArgs?] at known
    rw [dispatch_of_foreign known, Action.Still.external]
    exact .same fun same => absurd same other
  | some made =>
    have found : dispatch (standardFactories host) name args = Builtin.perform host made :=
      dispatch_of_builtin known
    have exit := Builtin.ofArgs?_exit_iff known
    by_cases leaving : name = "exit"
    · have ran : (Builtin.perform host made env s).2.1 = env.leaving := by
        obtain ⟨_, records⟩ := made
        obtain rfl := exit.mpr leaving
        rfl
      rw [found, ran]
      exact .left leaving
    · rw [found, Action.Still.perform fun h => leaving (exit.mp h)]
      exact .same fun same => absurd same leaving

/-- The line has no more tokens than a line may have, and the first of them is the name. -/
def Names (line name : String) : Prop := ∃ args, tokenize line = .ok ⟨name :: args⟩

namespace Interpreter

section
variable (host : Host σ) (prompt : String) (env : Environment) (s : σ)

theorem executeLine_follows (line : String) :
    env.Follows (Names line "exit") ((standard host prompt).executeLine line env s).2.1 := by
  rcases split : tokenize line with e | ⟨_ | ⟨name, args⟩⟩
  · have still : (standard host prompt).executeLine line env s =
        ((Action.printLine host ⟨"Error: " :: e.pieces, "."⟩).bind fun _ =>
          Action.pure (some ExitCode.failure)) env s := by
      simp only [executeLine, split]
      rfl
    rw [still, (Action.Still.printLine _).bind fun _ _ _ => rfl]
    refine .same ?_
    rintro ⟨args, named⟩
    simp [split] at named
  · have still : (standard host prompt).executeLine line env s = (.ok none, env, s) := by
      simp only [executeLine, split]
      rfl
    rw [still]
    refine .same ?_
    rintro ⟨args, named⟩
    simp [split] at named
  · have named : name = "exit" ↔ Names line "exit" := by simp [Names, split]
    rw [executeLine_of_tokens split]
    exact (dispatch_follows host name args env _).congr named

theorem step_follows (line : String) :
    env.Follows (Names line "exit") ((standard host prompt).step line env s).2.1 := by
  have ran := executeLine_follows host prompt env s line
  rcases outcome : (standard host prompt).executeLine line env s with ⟨f | code?, env', s'⟩
  · rw [step_of_error outcome, Action.Still.printLine]
    rwa [outcome] at ran
  · rw [step_of_ok outcome]
    rwa [outcome] at ran

theorem farewell_still : ((standard host prompt).farewell env s).2.1 = env :=
  Action.Still.printLine _ env s

theorem endOfLines_still (r : Log.Record) :
    ((standard host prompt).endOfLines r env s).2.1 = env := by
  have still : ((standard host prompt).endOfLines r).Still := by
    unfold endOfLines
    refine Action.Still.bind (fun _ _ => rfl) fun _ => ?_
    exact (Action.Still.printLine .blank).bind fun _ => Action.Still.printLine _
  exact still env s

end

section
variable (sh : Interpreter σ) (source : LineSource ι σ) (line : String)

/-- At the head of the loop the session goes on, and the line is what it is given. -/
structure Given (env : Environment) (input : ι) (s : σ) : Prop where
  staying : env.shouldExit = false
  read : ∃ s', sh.host.flush s = (.ok (), s') ∧ (source.read sh.prompt input s').1 =
    .ok (some line)

def Runs (env : Environment) (input : ι) (s : σ) : Prop :=
  ∃ env' input' s', sh.Turns source env input s env' input' s' ∧
    sh.Given source line env' input' s'

end

section
variable {sh : Interpreter σ} {source : LineSource ι σ} {line : String} {env : Environment}
  {input : ι} {s : σ}

theorem Given.of_flush {s₁ : σ} (given : sh.Given source line env input s)
    (flushed : sh.host.flush s = (.ok (), s₁)) :
    (source.read sh.prompt input s₁).1 = .ok (some line) := by
  obtain ⟨-, s', again, answer⟩ := given
  cases flushed.symm.trans again
  exact answer

/-- A session that runs a line is given one. -/
theorem Runs.given (h : sh.Runs source line env input s) :
    ∃ first, sh.Given source first env input s := by
  obtain ⟨_, _, _, turns, given⟩ := h
  cases turns with
  | none => exact ⟨line, given⟩
  | @more _ _ _ _ _ _ _ _ _ _ _ first staying flushed read =>
    exact ⟨first, staying, _, flushed, by rw [read]⟩

theorem not_runs (h : ∀ first, ¬ sh.Given source first env input s) :
    ¬ sh.Runs source line env input s := by
  intro runs
  obtain ⟨first, given⟩ := runs.given
  exact h first given

theorem not_runs_of_unread {s₁ : σ} (flushed : sh.host.flush s = (.ok (), s₁))
    (unread : ∀ first, (source.read sh.prompt input s₁).1 ≠ .ok (some first)) :
    ¬ sh.Runs source line env input s :=
  not_runs fun first given => unread first (given.of_flush flushed)

variable {s₁ s₂ : σ} {input₁ : ι} {first : String} (staying : env.shouldExit = false)
  (flushed : sh.host.flush s = (.ok (), s₁))
  (read : source.read sh.prompt input s₁ = (.ok (some first), input₁, s₂))
include staying flushed read

theorem given_iff : sh.Given source line env input s ↔ line = first := by
  constructor
  · intro given
    have answer := given.of_flush flushed
    rw [read] at answer
    simpa using answer.symm
  · rintro rfl
    exact ⟨staying, s₁, flushed, by rw [read]⟩

theorem runs_of_step {env₁ : Environment} {s₃ : σ}
    (stepped : sh.step first env s₂ = (.ok (), env₁, s₃)) :
    sh.Runs source line env input s ↔ line = first ∨
      sh.Runs source line env₁ input₁ s₃ := by
  constructor
  · rintro ⟨env', input', s', turns, given⟩
    cases turns with
    | none => exact .inl ((given_iff staying flushed read).mp given)
    | more _ flushed' read' stepped' rest =>
      -- The world answers once.
      cases flushed.symm.trans flushed'
      cases read.symm.trans read'
      cases stepped.symm.trans stepped'
      exact .inr ⟨env', input', s', rest, given⟩
  · rintro (rfl | ⟨env', input', s', rest, given⟩)
    · exact ⟨env, input, s, .none env input s, (given_iff staying flushed read).mpr rfl⟩
    · exact ⟨env', input', s', .more staying flushed read stepped rest, given⟩

theorem runs_of_failed_step {f : Failure} {env₁ : Environment} {s₃ : σ}
    (stepped : sh.step first env s₂ = (.error f, env₁, s₃)) :
    sh.Runs source line env input s ↔ line = first := by
  constructor
  · rintro ⟨env', input', s', turns, given⟩
    cases turns with
    | none => exact (given_iff staying flushed read).mp given
    | more _ flushed' read' stepped' _ =>
      cases flushed.symm.trans flushed'
      cases read.symm.trans read'
      cases stepped.symm.trans stepped'
  · intro same
    exact ⟨env, input, s, .none env input s, (given_iff staying flushed read).mpr same⟩

end

theorem session_follows (host : Host σ) (prompt : String) (source : LineSource ι σ)
    (env : Environment) (input : ι) (s : σ) :
    env.Follows (∃ line, (standard host prompt).Runs source line env input s ∧
    Names line "exit")
      ((standard host prompt).session source env input s).2.1 := by
  fun_induction session (standard host prompt) source env input s with
  | case1 env input s leaving r env' s' parted =>
    have still := farewell_still host prompt env s
    rw [parted] at still
    subst still
    exact .same fun _ => leaving
  | case2 env input s staying e s₁ flushed =>
    refine .same ?_
    rintro ⟨line, runs, -⟩
    refine absurd runs (not_runs ?_)
    rintro first ⟨-, s', again, -⟩
    cases flushed.symm.trans again
  | case3 env input s staying s₁ flushed first input₁ s₂ read env₁ s₃ stepped ih =>
    have ran := step_follows host prompt env s₂ first
    rw [stepped] at ran
    refine (ran.trans ih).congr ?_
    simp only [runs_of_step (by simpa using staying) flushed read stepped, or_and_right, exists_or,
      exists_eq_left]
  | case4 env input s staying s₁ flushed first input₁ s₂ read f env₁ s₃ stepped =>
    have ran := step_follows host prompt env s₂ first
    rw [stepped] at ran
    refine ran.congr ?_
    simp only [runs_of_failed_step (by simpa using staying) flushed read stepped, exists_eq_left]
  | case5 env input s staying s₁ flushed input₁ s₂ read r env₁ s₃ ended =>
    have still := endOfLines_still host prompt env s₂ .endOfInput
    rw [ended] at still
    subst still
    refine .same ?_
    rintro ⟨line, runs, -⟩
    exact absurd runs (not_runs_of_unread flushed (by simp [read]))
  | case6 env input s staying s₁ flushed f input₁ s₂ read r env₁ s₃ ended =>
    have still := endOfLines_still host prompt env s₂ (.readFailed f.chain)
    rw [ended] at still
    subst still
    refine .same ?_
    rintro ⟨line, runs, -⟩
    exact absurd runs (not_runs_of_unread flushed (by simp [read]))

/-- The use dispatches a command of the name: it asks for it, or it runs a line that names it. -/
inductive Dispatches (sh : Interpreter σ) (source : LineSource ι σ) (name : String)
    (env : Environment) (s : σ) :
    Use ι → Prop where
  | command (args : List String) : sh.Dispatches source name env s (.command name args)
  | line {text : String} (named : Names text name) : sh.Dispatches source name env s (.line text)
  | session {input : ι} {text : String} (runs : sh.Runs source text env input s)
      (named : Names text name) :
    sh.Dispatches source name env s (.session input)

/-- One of the uses in a row dispatches a command of the name, from where those before
it have led. -/
def Dispatched (sh : Interpreter σ) (source : LineSource ι σ) (name : String)
    (us : List (Use ι))
    (env : Environment) (s : σ) : Prop := ∃ pre u post, us = pre ++ u :: post ∧
  sh.Dispatches source name (sh.uses source pre env s).1 (sh.uses source pre env s).2 u

theorem use_follows (host : Host σ) (prompt : String) (source : LineSource ι σ)
    (env : Environment) (s : σ)
    (u : Use ι) : env.Follows ((standard host prompt).Dispatches source "exit" env s u)
      ((standard host prompt).use source env s u).1 := by
  cases u with
  | command name args =>
    refine (dispatch_follows host name args env s).congr ⟨?_, ?_⟩
    · rintro rfl
      exact .command args
    · rintro ⟨⟩
      rfl
  | line text =>
    refine (executeLine_follows host prompt env s text).congr ⟨.line, ?_⟩
    rintro ⟨⟩
    assumption
  | session input =>
    refine (session_follows host prompt source env input s).congr ⟨?_, ?_⟩
    · rintro ⟨line, runs, named⟩
      exact .session runs named
    · rintro ⟨⟩
      exact ⟨_, ‹_›, ‹_›⟩

theorem dispatched_cons {sh : Interpreter σ} {source : LineSource ι σ} {name : String}
    {u : Use ι} {us : List (Use ι)} {env : Environment} {s : σ} :
    sh.Dispatched source name (u :: us) env s ↔
      sh.Dispatches source name env s u ∨
        sh.Dispatched source name us (sh.use source env s u).1 (sh.use source env s u).2 := by
  constructor
  · rintro ⟨_ | ⟨v, pre⟩, w, post, split, asked⟩
    · cases split
      exact .inl asked
    · cases split
      exact .inr ⟨pre, w, post, rfl, asked⟩
  · rintro (asked | ⟨pre, w, post, rfl, asked⟩)
    · exact ⟨[], u, us, rfl, asked⟩
    · exact ⟨u :: pre, w, post, rfl, asked⟩

theorem uses_follows (host : Host σ) (prompt : String) (source : LineSource ι σ)
    (us : List (Use ι)) (env : Environment) (s : σ) :
    env.Follows ((standard host prompt).Dispatched source "exit" us env s)
      ((standard host prompt).uses source us env s).1 := by
  induction us generalizing env s with
  | nil =>
    refine .same ?_
    rintro ⟨pre, u, post, split, -⟩
    simp at split
  | cons u us ih =>
    have first := use_follows host prompt source env s u
    exact (first.trans (ih _ _)).congr dispatched_cons.symm

theorem uses_append (sh : Interpreter σ) (source : LineSource ι σ) (us us' : List (Use ι))
    (env : Environment) (s : σ) : sh.uses source (us ++ us') env s =
      sh.uses source us' (sh.uses source us env s).1 (sh.uses source us env s).2 :=
  List.foldl_append

theorem not_names_of_crowded {line : String}
    (crowded : ArgVector.limit < (words line.toList).length)
    (name : String) : ¬ Names line name := by
  rintro ⟨args, split⟩
  obtain ⟨same, few⟩ := tokenize_eq_ok_iff.mp split
  rw [← same, List.length_map] at few
  exact Nat.not_le_of_lt crowded few

/-- A session that was asked to end before it began does nothing but say so. -/
theorem session_over (host : Host σ) (prompt : String) (source : LineSource ι σ)
    {env : Environment}
    (leaving : env.shouldExit = true) (input : ι) (j : Journal σ) : ∃ q events j',
    (standard host.journaled prompt).session source.journaled env input j = (q, env, input, j') ∧
      j'.events = j.events ++ events ∧
        (∀ e ∈ events, ∃ offer answer, e = .write offer answer) ∧
      (q = .ok () ↔ stored events = Utf8.encode "Exiting sword-shell.\n") := by
  obtain ⟨events, attempts, noted⟩ := Journal.printLine_attempts host goodbye j
  let sh := standard host.journaled prompt
  have parted : sh.session source.journaled env input j =
      ((sh.farewell env j).1, (sh.farewell env j).2.1, input, (sh.farewell env j).2.2) :=
        session_of_leaving leaving
  rw [farewell, Action.printLine, Action.io_eq] at parted
  refine ⟨_, events, _, parted, noted, fun _ => attempts.writes, ?_⟩
  rw [mapError_eq_ok_iff]
  exact attempts.ok_iff

/-- The environment is that of the start, up to a request to leave that commands of the one name
make, that lasts, and that ends every later session before it reads. -/
structure LeavesByName (host : Host σ) (prompt : String) (source : LineSource ι σ) : Prop where
  follows : ∀ us (env : Environment) s,
    env.Follows ((standard host prompt).Dispatched source "exit" us env s)
    ((standard host prompt).uses source us env s).1
  lasting : ∀ us us' env s, ((standard host prompt).uses source us env s).1.shouldExit = true →
    ((standard host prompt).uses source (us ++ us') env s).1.shouldExit = true
  crowded : ∀ line env s, 100 < (words line.toList).length →
    ((standard host prompt).executeLine line env s).2.1 = env
  ended : ∀ env input j, env.shouldExit = true → ∃ q events j',
    (standard host.journaled prompt).session source.journaled env input j = (q, env, input, j') ∧
      j'.events = j.events ++ events ∧
        (∀ e ∈ events, ∃ offer answer, e = .write offer answer) ∧
      (q = .ok () ↔ stored events = Utf8.encode "Exiting sword-shell.\n")

theorem leaves_by_name (host : Host σ) (prompt : String) (source : LineSource ι σ) :
    LeavesByName host prompt source where
  follows us env s := uses_follows host prompt source us env s
  lasting us us' env s leaving := by
    rw [uses_append]
    exact (uses_follows host prompt source us' _ _).leaves.mpr (.inl leaving)
  crowded line env s crowded :=
    (executeLine_follows host prompt env s line).eq_of_unasked (not_names_of_crowded crowded "exit")
  ended env input j leaving := session_over host prompt source leaving input j

end Interpreter

end SupervisedShell
