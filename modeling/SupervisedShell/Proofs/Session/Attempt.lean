import SupervisedShell.Proofs.Session.Journal

set_option autoImplicit false

namespace SupervisedShell

variable {σ α ε ε' : Type}

@[simp] theorem mapError_error (f : ε → ε') (e : ε) :
    (Except.error e : Except ε α).mapError f = .error (f e) := rfl

@[simp] theorem mapError_ok (f : ε → ε') (a : α) : (Except.ok a).mapError f = .ok a := rfl

theorem Action.io_eq (f : σ → Except IoError α × σ) (env : Environment) (s : σ) :
    Action.io f env s = ((f s).1.mapError .io, env, (f s).2) := by
  rcases answered : f s with ⟨e | a, s'⟩ <;>
    simp only [Action.io, answered, mapError_error, mapError_ok]

theorem mapError_eq_ok_iff {q : Except IoError α} {a : α} :
    q.mapError Failure.io = .ok a ↔ q = .ok a := by
  cases q <;> simp

def Event.kept : Event → Bytes
  | write bytes (.ok n) => bytes.take n
  | _ => []

def stored (events : List Event) : Bytes := events.flatMap Event.kept

theorem stored_append (xs ys : List Event) : stored (xs ++ ys) = stored xs ++ stored ys :=
  List.flatMap_append

def Event.refusal? : Event → Option IoError
  | write _ (.error e) | flush (.error e) => some e
  | write _ (.ok 0) => some .nothingWritten
  | _ => none

/-- The answers make the result: the first refusal is the error, with nothing behind it. -/
def Answered (events : List Event) : Except IoError Unit → Prop
  | .ok () => ∀ x ∈ events, x.refusal? = none
  | .error e =>
    ∃ front x, events = front ++ [x] ∧ x.refusal? = some e ∧
      ∀ y ∈ front, y.refusal? = none

theorem Answered.append {first later : List Event} {r : Except IoError Unit}
    (taken : Answered first (.ok ())) (h : Answered later r) : Answered (first ++ later) r := by
  cases r with
  | ok _ => exact List.forall_mem_append.mpr ⟨taken, h⟩
  | error e =>
    obtain ⟨front, x, rfl, refused, before⟩ := h
    exact ⟨first ++ front, x, (List.append_assoc _ _ _).symm, refused,
      List.forall_mem_append.mpr ⟨taken, before⟩⟩

inductive Attempt : Bytes → List Event → Except IoError Unit → Prop where
  | done : Attempt [] [] (.ok ())
  | taken {b : UInt8} {rest : Bytes} {n : Nat} {events : List Event} {r : Except IoError Unit}
      (later : Attempt (rest.drop n) events r) :
      Attempt (b :: rest) (.write (b :: rest) (.ok (n + 1)) :: events) r
  | refused (b : UInt8) (rest : Bytes) (e : IoError) :
    Attempt (b :: rest) [.write (b :: rest) (.error e)] (.error e)
  | idle (b : UInt8) (rest : Bytes) :
    Attempt (b :: rest) [.write (b :: rest) (.ok 0)] (.error .nothingWritten)

namespace Attempt

variable {bytes : Bytes} {events : List Event} {r : Except IoError Unit}
  (h : Attempt bytes events r)
include h

theorem stored_append : ∃ left, stored events ++ left = bytes ∧ (r = .ok () ↔ left = []) := by
  induction h with
  | done => exact ⟨[], rfl, by simp⟩
  | @taken b rest n events r _ ih =>
    obtain ⟨left, parts, whole⟩ := ih
    refine ⟨left, ?_, whole⟩
    have first : stored (.write (b :: rest) (.ok (n + 1)) :: events) =
        b :: rest.take n ++ stored events := by
      simp [stored, Event.kept]
    rw [first, List.append_assoc, parts, List.cons_append, List.take_append_drop]
  | refused b rest e => exact ⟨b :: rest, by simp [stored, Event.kept], by simp⟩
  | idle b rest => exact ⟨b :: rest, by simp [stored, Event.kept], by simp⟩

theorem ok_iff : r = .ok () ↔ stored events = bytes := by
  obtain ⟨left, parts, whole⟩ := h.stored_append
  rw [whole, ← parts]
  simp

theorem answered : Answered events r := by
  induction h with
  | done => exact List.forall_mem_nil _
  | @taken b rest n events r _ ih =>
    have first : Answered [.write (b :: rest) (.ok (n + 1))] (.ok ()) :=
      List.forall_mem_singleton.mpr rfl
    exact first.append ih
  | refused b rest e => exact ⟨[], _, rfl, rfl, List.forall_mem_nil _⟩
  | idle b rest => exact ⟨[], _, rfl, rfl, List.forall_mem_nil _⟩

theorem writes {e : Event} (known : e ∈ events) : ∃ offer answer, e = .write offer answer := by
  induction h with
  | done => simp at known
  | taken _ ih =>
    rcases List.mem_cons.mp known with rfl | later
    · exact ⟨_, _, rfl⟩
    · exact ih later
  | refused b rest e => exact ⟨_, _, List.mem_singleton.mp known⟩
  | idle b rest => exact ⟨_, _, List.mem_singleton.mp known⟩

end Attempt

theorem Journal.writeAll_attempt (host : Host σ) (bytes : Bytes) (j : Journal σ) :
    ∃ events, Attempt bytes events (host.journaled.toOutlet.writeAll bytes j).1 ∧
      (host.journaled.toOutlet.writeAll bytes j).2.events = j.events ++ events := by
  generalize size : bytes.length = n
  induction n using Nat.strongRecOn generalizing bytes j with
  | ind n ih =>
    cases bytes with
    | nil =>
      rw [Outlet.writeAll]
      exact ⟨[], .done, (List.append_nil _).symm⟩
    | cons b rest =>
      let offer := host.write (b :: rest) j.world
      let j₁ : Journal σ := ⟨offer.2, j.events ++ [.write (b :: rest) offer.1]⟩
      have offered : host.journaled.write (b :: rest) j = (offer.1, j₁) := rfl
      rw [Outlet.writeAll, offered]
      rcases answer : offer.1 with e | _ | taken
      · exact ⟨_, .refused b rest e, by simp [j₁, answer]⟩
      · exact ⟨_, .idle b rest, by simp [j₁, answer]⟩
      · have shorter : (rest.drop taken).length < n := by
          rw [← size, List.length_drop, List.length_cons]
          omega
        obtain ⟨events, attempt, noted⟩ := ih _ shorter (rest.drop taken) j₁ rfl
        refine ⟨_, .taken attempt, ?_⟩
        rw [noted]
        simp [j₁, answer]

/-- One attempt for each of the texts, up to the first that fails. -/
inductive Attempts : List String → List Event → Except IoError Unit → Prop where
  | done : Attempts [] [] (.ok ())
  | kept {piece : String} {rest : List String} {first later : List Event} {r : Except IoError Unit}
      (whole : Attempt (Utf8.encode piece) first (.ok ())) (more : Attempts rest later r) :
    Attempts (piece :: rest) (first ++ later) r
  | lost {piece : String} {events : List Event} {e : IoError}
      (part : Attempt (Utf8.encode piece) events (.error e)) (rest : List String) :
    Attempts (piece :: rest) events (.error e)

namespace Attempts

variable {pieces : List String} {events : List Event} {r : Except IoError Unit}

theorem stored_append (h : Attempts pieces events r) :
    ∃ left, stored events ++ left = Utf8.encode (String.join pieces) ∧
      (r = .ok () ↔ left = []) := by
  induction h with
  | done => exact ⟨[], by simp [stored, Utf8.encode], by simp⟩
  | kept whole _ ih =>
    obtain ⟨left, parts, rest⟩ := ih
    refine ⟨left, ?_, rest⟩
    rw [SupervisedShell.stored_append, List.append_assoc, parts, whole.ok_iff.mp rfl,
      String.join_cons, Utf8.encode_append]
  | @lost piece events e part rest =>
    obtain ⟨left, parts, whole⟩ := part.stored_append
    have some : left ≠ [] := fun none => by cases whole.mpr none
    refine ⟨left ++ Utf8.encode (String.join rest), ?_, by simp [some]⟩
    rw [← List.append_assoc, parts, String.join_cons, Utf8.encode_append]

theorem ok_iff (h : Attempts pieces events r) :
    r = .ok () ↔ stored events = Utf8.encode (String.join pieces) := by
  obtain ⟨left, parts, whole⟩ := h.stored_append
  rw [whole, ← parts]
  simp

theorem writes (h : Attempts pieces events r) {e : Event} (known : e ∈ events) :
    ∃ offer answer, e = .write offer answer := by
  induction h with
  | done => simp at known
  | kept whole _ ih => exact (List.mem_append.mp known).elim whole.writes ih
  | lost part rest => exact part.writes known

theorem answered (h : Attempts pieces events r) : Answered events r := by
  induction h with
  | done => exact List.forall_mem_nil _
  | kept whole _ ih => exact whole.answered.append ih
  | lost part rest => exact part.answered

end Attempts

theorem Journal.printAll_attempts (host : Host σ) (pieces : List String) (j : Journal σ) :
    ∃ events, Attempts pieces events (host.journaled.toOutlet.printAll pieces j).1 ∧
      (host.journaled.toOutlet.printAll pieces j).2.events = j.events ++ events := by
  induction pieces generalizing j with
  | nil => exact ⟨[], .done, (List.append_nil _).symm⟩
  | cons piece rest ih =>
    obtain ⟨first, attempt, noted⟩ := writeAll_attempt host (Utf8.encode piece) j
    rw [Outlet.printAll]
    rcases written : host.journaled.toOutlet.writeAll (Utf8.encode piece) j with ⟨e | _, j₁⟩
    · rw [written] at attempt noted
      exact ⟨first, .lost attempt rest, noted⟩
    · rw [written] at attempt noted
      obtain ⟨later, more, noted'⟩ := ih j₁
      exact ⟨first ++ later, .kept attempt more, by rw [noted', noted, List.append_assoc]⟩

theorem Journal.printLine_attempts (host : Host σ) (l : Line) (j : Journal σ) :
    ∃ events, Attempts l.pieces events (host.journaled.toOutlet.printLine l j).1 ∧
      (host.journaled.toOutlet.printLine l j).2.events = j.events ++ events :=
  printAll_attempts host l.pieces j

end SupervisedShell
