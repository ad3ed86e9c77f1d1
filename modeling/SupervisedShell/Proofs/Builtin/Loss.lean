import SupervisedShell.Proofs.Builtin.Lines

set_option autoImplicit false

namespace SupervisedShell

variable {σ : Type}

/-- Where an attempt ends can be read off what comes of its offers. -/
theorem Attempt.unique {bytes : Bytes} {xs ys xs' ys' : List Event} {q q' : Except IoError Unit}
    (h : Attempt bytes xs q) (h' : Attempt bytes xs' q') (same : xs ++ ys = xs' ++ ys') :
    xs = xs' ∧ q = q' ∧ ys = ys' := by
  induction h generalizing xs' with
  | done =>
    cases h' with
    | done => exact ⟨rfl, rfl, same⟩
  | @taken b rest n events r later ih =>
    cases h' with
    | @taken _ _ n' events' _ later' =>
      obtain ⟨first, others⟩ := List.cons.inj same
      obtain rfl : n = n' := by simpa using first
      obtain ⟨rfl, rfl, rest⟩ := ih later' others
      exact ⟨rfl, rfl, rest⟩
    | refused => simp at same
    | idle => simp at same
  | refused b rest e =>
    cases h' with
    | taken => simp at same
    | refused _ _ e' =>
      obtain ⟨rfl, rest⟩ : e = e' ∧ ys = ys' := by simpa using same
      exact ⟨rfl, rfl, rest⟩
    | idle => simp at same
  | idle b rest =>
    cases h' with
    | taken => simp at same
    | refused => simp at same
    | idle => exact ⟨rfl, rfl, List.append_cancel_left same⟩

/-- The same of a row of attempts. -/
theorem Attempts.unique {pieces : List String} {xs ys xs' ys' : List Event}
    {q q' : Except IoError Unit}
    (h : Attempts pieces xs q) (h' : Attempts pieces xs' q') (same : xs ++ ys = xs' ++ ys') :
    xs = xs' ∧ q = q' ∧ ys = ys' := by
  induction h generalizing xs' with
  | done =>
    cases h' with
    | done => exact ⟨rfl, rfl, same⟩
  | kept whole more ih =>
    cases h' with
    | kept whole' more' =>
      rw [List.append_assoc, List.append_assoc] at same
      obtain ⟨rfl, -, others⟩ := whole.unique whole' same
      obtain ⟨rfl, rfl, rest⟩ := ih more' others
      exact ⟨rfl, rfl, rest⟩
    | lost part' =>
      rw [List.append_assoc] at same
      obtain ⟨-, other, -⟩ := whole.unique part' same
      cases other
  | lost part rest =>
    cases h' with
    | kept whole' more' =>
      rw [List.append_assoc] at same
      obtain ⟨-, other, -⟩ := part.unique whole' same
      cases other
    | lost part' => exact part.unique part' same

theorem Host.Noted.events {host : Host σ} {j j' : Journal σ} (h : host.journaled.Noted j j') :
    j'.events = j.events := by
  obtain ⟨records, rfl⟩ := h
  induction records generalizing j with
  | nil => rfl
  | cons r records ih => exact ih (j := host.journaled.log r j)

/-- The line was offered once, piece by piece, and the result is the code of a failure if all of
it was kept. -/
structure Reported (l : Line) (events : List Event) (r : Except Failure (Option ExitCode)) :
    Prop where
  once : ∃ q, Attempts l.pieces events q
  code : r = .ok (some 1) ↔ stored events = Utf8.encode (l.text ++ "\n")
  fails : stored events ≠ Utf8.encode (l.text ++ "\n") →
    ∃ e, r = .error (.io e) ∧ Attempts l.pieces events (.error e)

theorem Attempts.reported {l : Line} {events : List Event} {q : Except IoError Unit}
    (h : Attempts l.pieces events q) : Reported l events (Builtin.reported q) := by
  have all := h.ok_iff
  rw [l.join_pieces] at all
  rcases q with e | _
  · refine ⟨⟨_, h⟩, ?_, fun _ => ⟨e, rfl, h⟩⟩
    rw [← all]
    simp [Builtin.reported, Except.map]
  · exact ⟨⟨_, h⟩, ⟨fun _ => all.mp rfl, fun _ => rfl⟩,
      fun part => absurd (all.mp rfl) part⟩

namespace Builtin

variable {grants : Nat → Bool} {name : String} {args : List String} {events : List Event}

end Builtin

namespace Interpreter

end Interpreter

end SupervisedShell
