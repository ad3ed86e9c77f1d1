import SupervisedShell.Proofs.Session.Attempt
import SupervisedShell.Proofs.Session.Steps
/-!
Sessions whose outlet fails. The loop itself uses the outlet in four places; what the outlet refuses
there ends the session with that error at once, and nothing else does.
-/

set_option autoImplicit false

namespace SupervisedShell

variable {σ : Type}

namespace Deed

def fault? : Deed → Option IoError
  | flush (.error e) | report _ (.error e) | close (.error e) | farewell (.error e) => some e
  | _ => none

def result? : Deed → Option (Except IoError Unit)
  | flush q | report _ q | close q | farewell q => some q
  | _ => none

def executed? : Deed → Option String
  | execute line _ => some line
  | _ => none

def isRead : Deed → Bool
  | read _ => true
  | _ => false

/-- What the outlet is asked by a deed of the loop itself, with its answers. -/
inductive Offers : Deed → List Event → Prop where
  | flush (q : Except IoError Unit) : Offers (.flush q) [.flush q]
  | report {f : Failure} {events : List Event} {q : Except IoError Unit}
      (line : Attempts ("Error: " :: f.pieces ++ ["\n"]) events q) : Offers (.report f q) events
  | close {events : List Event} {q : Except IoError Unit} (line : Attempts ["\n"] events q) :
    Offers (.close q) events
  | farewell {events : List Event} {q : Except IoError Unit}
      (line : Attempts ["Exiting sword-shell.\n"] events q) : Offers (.farewell q) events

theorem Offers.answered {d : Deed} {events : List Event} {q : Except IoError Unit}
    (offers : d.Offers events) (went : d.result? = some q) : Answered events q := by
  cases offers with
  | flush q' =>
    cases went
    rcases q with e | _
    · exact ⟨[], _, rfl, rfl, List.forall_mem_nil _⟩
    · exact List.forall_mem_singleton.mpr rfl
  | report line | close line | farewell line =>
    cases went
    exact line.answered

end Deed

/-- Where a deed leads the loop and its lines, whatever becomes of the world. -/
inductive Moves (prompt : String) :
    Deed → Point → Recording → Point → Recording → Prop where
  | flush (r : Except IoError Unit) (input : Recording) :
    Moves prompt (.flush r) .flushing input (Point.asking.after r) input
  | read (input : Recording) : Moves prompt (.read (input.read prompt).1) .asking input
      (.given (input.read prompt).1) (input.read prompt).2
  | run (line : String) (code? : Option ExitCode) (env : Environment) (input : Recording) :
    Moves prompt (.execute line (.ok code?)) (.running line) input (.head env) input
  | fail (line : String) (f : Failure) (input : Recording) :
    Moves prompt (.execute line (.error f)) (.running line) input (.failed f) input
  | report (f : Failure) (r : Except IoError Unit) (env : Environment) (input : Recording) :
    Moves prompt (.report f r) (.failed f) input ((Point.head env).after r) input
  | close (record : Log.Record) (r : Except IoError Unit) (input : Recording) :
    Moves prompt (.close r) (.closing record) input (Point.leaving.after r) input
  | farewell (r : Except IoError Unit) (input : Recording) :
    Moves prompt (.farewell r) .leaving input ((Point.ended (.ok ())).after r) input

namespace Point

def owed (p : Point) (input : Recording) : List String :=
  match p with
  | running line => line :: input.lines
  | _ => input.lines

def budget (p : Point) (input : Recording) : Nat :=
  match p with
  | closing _ | leaving | ended _ => 0
  | _ => input.remaining + 1

theorem owed_after {p : Point} (r : Except IoError Unit) {input : Recording}
    (plain : p.owed input = input.lines) : (p.after r).owed input = input.lines := by
  cases r with
  | ok _ => exact plain
  | error e => rfl

theorem owed_head (env : Environment) (input : Recording) :
    (head env).owed input = input.lines := by
  unfold head
  split <;> rfl

theorem budget_after_le {p : Point} (r : Except IoError Unit) {input : Recording} {n : Nat}
    (bound : p.budget input ≤ n) : (p.after r).budget input ≤ n := by
  cases r with
  | ok _ => exact bound
  | error e => exact Nat.zero_le n

theorem budget_head_le (env : Environment) (input : Recording) :
    (head env).budget input ≤ input.remaining + 1 := by
  unfold head
  split
  · exact Nat.zero_le _
  · exact Nat.le_refl _

end Point

namespace Moves

variable {prompt : String} {d : Deed} {p p' : Point} {input input' : Recording}

/-- Each line is run where it was read, and no other is. -/
theorem owed (m : Moves prompt d p input p' input') :
    p.owed input = d.executed?.toList ++ p'.owed input' := by
  cases m with
  | read =>
    obtain ⟨_ | ⟨line, lines⟩, prompts, failsAtEnd⟩ := input
    · cases failsAtEnd <;> rfl
    · rfl
  | flush r | close _ r | farewell r => exact (Point.owed_after r rfl).symm
  | report _ r env => exact (Point.owed_after r (Point.owed_head env input)).symm
  | run line code? env => exact congrArg (line :: ·) (Point.owed_head env input).symm
  | fail => rfl

theorem budget (m : Moves prompt d p input p' input') :
    (if d.isRead then 1 else 0) + p'.budget input' ≤ p.budget input := by
  cases m with
  | read =>
    obtain ⟨_ | ⟨line, lines⟩, prompts, failsAtEnd⟩ := input
    · cases failsAtEnd <;> simp [Deed.isRead, Recording.read, Point.given, Point.budget]
    · simp [Deed.isRead, Recording.read, Point.given, Point.budget, Recording.remaining]
      omega
  | flush r | close _ r | farewell r =>
    simp only [Deed.isRead, Bool.false_eq_true, if_false, Nat.zero_add]
    exact Point.budget_after_le r (Nat.le_refl _)
  | report _ r env =>
    simp only [Deed.isRead, Bool.false_eq_true, if_false, Nat.zero_add]
    exact Point.budget_after_le r (Point.budget_head_le env input)
  | run _ _ env =>
    simp only [Deed.isRead, Bool.false_eq_true, if_false, Nat.zero_add]
    exact Point.budget_head_le env input
  | fail =>
    simp only [Deed.isRead, Bool.false_eq_true, if_false, Nat.zero_add]
    exact Nat.le_refl _

theorem prompts (m : Moves prompt d p input p' input') :
    input'.prompts = input.prompts ++ List.replicate (if d.isRead then 1 else 0) prompt := by
  cases m with
  | read =>
    obtain ⟨_ | ⟨line, lines⟩, prompts, failsAtEnd⟩ := input <;> rfl
  | _ => simp [Deed.isRead]

theorem failed {line : String} {f : Failure}
    (m : Moves prompt (.execute line (.error f)) p input p' input') : p' = .failed f := by
  cases m
  rfl

theorem reported {f : Failure} (m : Moves prompt d (.failed f) input p' input') :
    ∃ q env, d = .report f q ∧ p' = (Point.head env).after q := by
  cases m with
  | report _ q env => exact ⟨q, env, rfl, rfl⟩

end Moves

theorem Interpreter.next_moves {sh : Interpreter σ} {c c' : Config σ} {d : Deed}
    (done : sh.next c = some (d, c')) : Moves sh.prompt d c.point c.input c'.point c'.input := by
  obtain ⟨point, env, input, s⟩ := c
  cases point with
  | flushing =>
    cases done
    exact .flush _ input
  | asking =>
    cases done
    exact .read input
  | running line =>
    rcases ran : sh.executeLine line env s with ⟨f | code?, env', s'⟩
    · simp only [next, ran] at done
      cases done
      exact .fail line f input
    · simp only [next, ran] at done
      cases done
      exact .run line code? env' input
  | failed f =>
    cases done
    exact .report f _ env input
  | closing record =>
    cases done
    exact .close record _ input
  | leaving =>
    cases done
    exact .farewell _ input
  | ended r => cases done

namespace Interpreter.Course

variable {sh : Interpreter σ} {c c' : Config σ} {ds : List Deed}

theorem owed (course : sh.Course c ds c') :
    c.point.owed c.input = ds.filterMap Deed.executed? ++ c'.point.owed c'.input := by
  induction course with
  | rest c => rfl
  | @deed c c' c'' d ds done _ ih =>
    rw [(next_moves done).owed, ih, ← List.append_assoc]
    cases d <;> rfl

theorem budget (course : sh.Course c ds c') :
    ds.countP Deed.isRead + c'.point.budget c'.input ≤ c.point.budget c.input := by
  induction course with
  | rest c => simp
  | deed done _ ih =>
    have first := (next_moves done).budget
    rw [List.countP_cons]
    omega

theorem prompts (course : sh.Course c ds c') :
    c'.input.prompts = c.input.prompts ++ List.replicate (ds.countP Deed.isRead) sh.prompt := by
  induction course with
  | rest c => simp
  | deed done _ ih =>
    rw [ih, (next_moves done).prompts, List.append_assoc, List.replicate_append_replicate,
      List.countP_cons, Nat.add_comm]

/-- Nothing is done once the session has ended. -/
theorem stops {r : Except Failure Unit} (course : sh.Course c ds c') (ended : c.point = .ended r) :
    ds = [] ∧ c' = c := by
  cases course with
  | rest => exact ⟨rfl, rfl⟩
  | deed done _ => simp [next, ended] at done

/-- There is no choice on the way to the end. -/
theorem unique {c'' : Config σ} {es : List Deed} {r r' : Except Failure Unit}
    (course : sh.Course c ds c') (ended : c'.point = .ended r) (other : sh.Course c es c'')
    (ended' : c''.point = .ended r') : es = ds := by
  induction course generalizing es with
  | rest c => exact (other.stops ended).1
  | deed done _ ih =>
    cases other with
    | rest => simp [next, ended'] at done
    | deed done' later =>
      obtain ⟨rfl, rfl⟩ := Prod.mk.inj (Option.some.inj (done.symm.trans done'))
      rw [ih ended later]

theorem split {es : List Deed} (course : sh.Course c (ds ++ es) c') :
    ∃ m, sh.Course c ds m ∧ sh.Course m es c' := by
  induction ds generalizing c with
  | nil => exact ⟨c, .rest c, course⟩
  | cons d ds ih =>
    cases course with
    | deed done later =>
      obtain ⟨m, before, behind⟩ := ih later
      exact ⟨m, .deed done before, behind⟩

end Interpreter.Course

section
variable {host : Host σ} {factories : List (Factory (Journal σ))} {prompt : String}
  {c c' : Config (Journal σ)} {ds : List Deed}

/-- The loop hands its own lines to the outlet, and goes by the answers. -/
theorem Interpreter.next_offers {d : Deed} {q : Except IoError Unit}
    (done : Interpreter.next ⟨host.journaled, factories, prompt⟩ c = some (d, c'))
    (went : d.result? = some q) :
    ∃ events, c'.world.events = c.world.events ++ events ∧ d.Offers events := by
  obtain ⟨point, env, input, j⟩ := c
  cases point with
  | flushing =>
    cases done
    exact ⟨_, rfl, .flush _⟩
  | failed f =>
    obtain ⟨events, line, noted⟩ :=
      Journal.printLine_attempts host f.report (host.journaled.log (.commandFailed f.chain) j)
    cases done
    exact ⟨events, noted, .report line⟩
  | closing record =>
    obtain ⟨events, line, noted⟩ :=
      Journal.printLine_attempts host .blank (host.journaled.log record j)
    cases done
    exact ⟨events, noted, .close line⟩
  | leaving =>
    obtain ⟨events, line, noted⟩ := Journal.printLine_attempts host goodbye j
    cases done
    exact ⟨events, noted, .farewell line⟩
  | asking =>
    cases done
    cases went
  | running line =>
    rcases ran : Interpreter.executeLine ⟨host.journaled, factories, prompt⟩ line env j with
      ⟨f | code?, env', j'⟩ <;>
      simp only [next, ran] at done <;> cases done <;> cases went
  | ended r => cases done

namespace Interpreter.Course

/-- Each use of the outlet by the loop is somewhere on the course, with its offers. -/
theorem offers (course : Course ⟨host.journaled, factories, prompt⟩ c ds c')
    {pre post : List Deed} {d : Deed} {q : Except IoError Unit} (split : ds = pre ++ d :: post)
    (went : d.result? = some q) :
    ∃ m m' events, Course ⟨host.journaled, factories, prompt⟩ c pre m ∧
      Interpreter.next ⟨host.journaled, factories, prompt⟩ m = some (d, m') ∧
      Course ⟨host.journaled, factories, prompt⟩ m' post c' ∧
      m'.world.events = m.world.events ++ events ∧ d.Offers events ∧ Answered events q := by
  subst split
  obtain ⟨m, before, behind⟩ := course.split
  cases behind with
  | @deed _ m' _ _ _ done later =>
    obtain ⟨events, noted, offers⟩ := next_offers done went
    exact ⟨m, m', events, before, done, later, noted, offers, offers.answered went⟩

end Interpreter.Course

end

end SupervisedShell
