import SupervisedShell.Script.Word
/-!
How words come of their text: parts in quotes and characters between them.
-/

set_option autoImplicit false

namespace SupervisedShell.Script

/-- A part of a written word. -/
inductive Segment where
  | bare (c : Char)
  | escaped (c : Char)
  | single (cs : List Char)
  | double (cs : List Char)

namespace Segment

def text : Segment → List Char
  | bare c => [c]
  | escaped c => ['\\', c]
  | single cs => '\x27' :: (cs ++ ['\x27'])
  | double cs => '"' :: (cs ++ ['"'])

def letters : Segment → List Char
  | bare c | escaped c => [c]
  | single cs | double cs => cs

def word : Segment → Word
  | bare c => [.char c false]
  | escaped c => [.char c true]
  | single cs | double cs => .mark :: (cs.map (.char · true) ++ [.mark])

def isQuoted : Segment → Bool
  | bare _ => false
  | _ => true

/-- The characters that keep a meaning in double quotes. -/
def active : List Char := ['"', '\\', '$', Reader.backquote]

/-- Nothing in such a segment has a meaning where it stands. -/
def Plain : Segment → Prop
  | bare c => Reader.endsWord c = false ∧ c ≠ '\x27' ∧ c ∉ active
  | escaped c => c ≠ '\n'
  | single cs => '\x27' ∉ cs
  | double cs => ∀ c ∈ cs, c ∉ active

theorem length_lt_of_quoted {c d : Char} {cs : List Char} {n : Nat}
    (room : (c :: (cs ++ [d])).length ≤ n) : cs.length < n + 2 := by
  rw [List.length_cons, List.length_append] at room
  omega

theorem length_le (row : List Segment) : row.length ≤ (row.flatMap text).length := by
  induction row with
  | nil => exact Nat.le_refl 0
  | cons x row ih =>
    have filled : 0 < x.text.length := by cases x <;> exact Nat.succ_pos _
    rw [List.flatMap_cons, List.length_append, List.length_cons]
    omega

theorem length_text_le {x : Segment} {row : List Segment} (known : x ∈ row) :
    x.text.length ≤ (row.flatMap text).length := by
  obtain ⟨front, back, rfl⟩ := List.append_of_mem known
  rw [List.flatMap_append, List.flatMap_cons, List.length_append, List.length_append]
  omega

theorem reverse_quoted (cs : List Char) (acc : Word) :
    (single cs).word.reverse ++ acc =
      .mark :: ((cs.map (Piece.char · true)).reverse ++ .mark :: acc) := by
  simp [word]

end Segment

namespace Source

/-- The source behind characters that were read. -/
def past (s : Source) (cs rest : List Char) : Source :=
  { s with rest, line := s.line + cs.count '\n' }

theorem past_nil {s : Source} {rest : List Char} (known : s.rest = rest) : s.past [] rest = s := by
  subst known
  rfl

theorem past_past (s : Source) (cs ds rest rest' : List Char) :
    (s.past cs rest').past ds rest = s.past (cs ++ ds) rest := by
  simp [past, List.count_append, Nat.add_assoc]

end Source

namespace Reader

variable {α β : Type} {n bound : Nat} {r : Reader α} {f : α → Reader β} {a : α} {b : β}
  {c : Char} {cs ds rest : List Char} {acc : Word}

/-- The reader takes these characters off the front of a text of limited length. -/
def Takes (bound : Nat) (r : Reader α) (cs rest : List Char) (a : α) : Prop :=
  ∀ s : Source, s.bound = bound → (rest = [] → s.continues = false) →
    s.rest = cs ++ rest → r s = .ok (a, s.past cs rest)

theorem Takes.pure (a : α) : Takes bound (Pure.pure a) [] rest a := by
  intro s _ _ known
  rw [List.nil_append] at known
  subst known
  rfl

theorem Takes.bind (first : Takes bound r cs (ds ++ rest) a)
    (second : Takes bound (f a) ds rest b) : Takes bound (r >>= f) (cs ++ ds) rest b := by
  intro s size closed known
  have reading := first s size (fun none => closed (List.append_eq_nil_iff.mp none).2)
    (by rw [known, List.append_assoc])
  have later := second (s.past cs (ds ++ rest)) size closed rfl
  rw [Source.past_past] at later
  change (r s >>= fun x => f x.1 x.2) = _
  rw [reading]
  exact later

theorem Takes.last (first : Takes bound r cs rest a) (second : Takes bound (f a) [] rest b) :
    Takes bound (r >>= f) cs rest b := by
  have whole : Takes bound (r >>= f) (cs ++ []) rest b := first.bind second
  rwa [List.append_nil] at whole

theorem Takes.early (first : Takes bound r [] (cs ++ rest) a)
    (second : Takes bound (f a) cs rest b) :
    Takes bound (r >>= f) cs rest b := by
  have whole : Takes bound (r >>= f) ([] ++ cs) rest b := first.bind second
  exact whole

theorem Takes.next (first : Takes bound r [c] (cs ++ rest) a)
    (second : Takes bound (f a) cs rest b) : Takes bound (r >>= f) (c :: cs) rest b := by
  have whole : Takes bound (r >>= f) ([c] ++ cs) rest b := first.bind second
  exact whole

theorem takes_steps : Takes bound steps [] rest (bound + 2) := by
  intro s size _ known
  rw [List.nil_append] at known
  subst known size
  rfl

theorem get_bind (f : Source → Reader β) (s : Source) : (get >>= f) s = f s s := rfl

theorem takes_skip (other : c ≠ '\n') : Takes bound skip [c] rest () := by
  intro s _ _ known
  have rest_eq : s.rest.tail = rest := by rw [known]; rfl
  have line : s.line + [c].count '\n' = s.line := by simp [other]
  rw [Source.past, line, ← rest_eq]
  rfl

theorem takes_skipLine : Takes bound skipLine ['\n'] rest () := by
  intro s _ _ known
  have rest_eq : s.rest.tail = rest := by rw [known]; rfl
  rw [Source.past, List.count_singleton_self, ← rest_eq]
  rfl

theorem takes_raw : Takes bound raw [c] rest (some c) := by
  intro s size closed known
  unfold raw
  rw [get_bind, known, List.singleton_append]
  by_cases newline : c = '\n'
  · subst newline
    exact takes_skipLine.last (f := fun _ => pure (some '\n')) (.pure _) s size closed known
  · simp only [if_neg newline]
    exact (takes_skip newline).last (f := fun _ => pure (some c)) (.pure _) s size closed known

theorem peek_eq {s : Source} (whole : joined s.rest s.line = (s.rest, s.line)) :
    peek s = (match s.rest with
      | [] => do
        await
        return none
      | c :: behind => do
        if c = '\\' && behind.isEmpty then await
        return some c : Reader (Option Char)) s := by
  unfold peek
  rw [get_bind, whole]
  rfl

theorem takes_peek (plain : c ≠ '\\') : Takes bound peek [] (c :: rest) (some c) := by
  intro s _ _ known
  rw [List.nil_append] at known
  have whole : joined s.rest s.line = (s.rest, s.line) := by
    rw [known]
    simp [joined, plain]
  rw [peek_eq whole, Source.past_nil known, known]
  simp only [plain, decide_false, Bool.false_and]
  rfl

theorem takes_peek_escape (other : c ≠ '\n') :
    Takes bound peek [] ('\\' :: c :: rest) (some '\\') := by
  intro s _ _ known
  rw [List.nil_append] at known
  have whole : joined s.rest s.line = (s.rest, s.line) := by
    rw [known]
    simp [joined, other]
  rw [peek_eq whole, Source.past_nil known, known]
  simp only [List.isEmpty_cons, Bool.and_false]
  rfl

theorem takes_peek_end : Takes bound peek [] [] none := by
  intro s _ closed known
  rw [List.append_nil] at known
  rw [peek_eq (by rw [known]; rfl), Source.past_nil known, known]
  change (await >>= fun _ => Pure.pure none) s = _
  unfold await
  rw [bind_assoc, get_bind, closed rfl]
  rfl

theorem takes_single (plain : '\x27' ∉ cs) (room : cs.length < n) :
    Takes bound (single n acc) (cs ++ ['\x27']) rest ((cs.map (.char · true)).reverse ++ acc) := by
  induction cs generalizing n acc with
  | nil =>
    obtain ⟨n, rfl⟩ := Nat.exists_eq_add_one_of_ne_zero (Nat.ne_of_gt room)
    exact takes_raw.last (.pure acc)
  | cons c cs ih =>
    obtain ⟨n, rfl⟩ := Nat.exists_eq_add_one_of_ne_zero (Nat.ne_of_gt (Nat.zero_lt_of_lt room))
    rw [List.mem_cons, not_or] at plain
    have later : Takes bound (single n (.char c true :: acc)) _ rest _ :=
      ih plain.2 (Nat.lt_of_succ_lt_succ room)
    rw [List.map_cons, List.reverse_cons, List.append_assoc]
    refine takes_raw.next ?_
    have other : ¬ c = '\x27' := fun same => plain.1 same.symm
    simpa [other] using later

theorem takes_double (d : Deeper) (plain : ∀ c ∈ cs, c ∉ Segment.active)
    (room : cs.length < n) :
    Takes bound (double d n acc) (cs ++ ['"']) rest ((cs.map (.char · true)).reverse ++ acc) := by
  induction cs generalizing n acc with
  | nil =>
    obtain ⟨n, rfl⟩ := Nat.exists_eq_add_one_of_ne_zero (Nat.ne_of_gt room)
    exact (takes_peek (by decide)).early (takes_raw.last (.pure acc))
  | cons c cs ih =>
    obtain ⟨n, rfl⟩ := Nat.exists_eq_add_one_of_ne_zero (Nat.ne_of_gt (Nat.zero_lt_of_lt room))
    rw [List.forall_mem_cons] at plain
    have later : Takes bound (double d n (.char c true :: acc)) _ rest _ :=
      ih plain.2 (Nat.lt_of_succ_lt_succ room)
    obtain ⟨quote, back, dollar, command⟩ :
        c ≠ '"' ∧ c ≠ '\\' ∧ c ≠ '$' ∧ c ≠ backquote := by
      simpa [Segment.active] using plain.1
    rw [List.map_cons, List.reverse_cons, List.append_assoc]
    refine (takes_peek back).early (takes_raw.next ?_)
    simpa [quote, back, dollar, command] using later

/-- A word goes on behind a segment as behind the pieces that this is read as. -/
theorem takes_segment (d : Deeper) {q : Bool} {x : Segment} {read : Word × Bool} (h : x.Plain)
    (room : x.text.length ≤ bound)
    (later : Takes bound (plain d n (x.word.reverse ++ acc) (q || x.isQuoted)) ds rest read) :
    Takes bound (plain d (n + 1) acc q) (x.text ++ ds) rest read := by
  cases x with
  | bare c =>
    obtain ⟨inside, single, other⟩ := h
    obtain ⟨double, back, dollar, command⟩ :
        c ≠ '"' ∧ c ≠ '\\' ∧ c ≠ '$' ∧ c ≠ backquote := by
      simpa [Segment.active] using other
    have line : c ≠ '\n' := by
      rintro rfl
      exact absurd inside (by decide)
    refine (takes_peek back).early ?_
    simp only [inside, special?, single, double, back, dollar, command]
    simp only [Segment.isQuoted, Bool.or_false] at later
    exact (takes_skip line).bind later
  | escaped c =>
    refine (takes_peek_escape h).early ?_
    refine Takes.bind (a := (Piece.char c true :: acc, true)) ?_ later
    exact takes_raw.next
      (takes_raw.last (f := fun c? => pure (.char (c?.getD '\\') true :: acc, true)) (.pure _))
  | single cs =>
    have body : Takes bound (single (bound + 2) (.mark :: acc)) (cs ++ ['\x27']) (ds ++ rest) _ :=
      takes_single h (Segment.length_lt_of_quoted room)
    refine (takes_peek (by decide)).early ?_
    refine Takes.bind (a := ((Segment.single cs).word.reverse ++ acc, true)) ?_ later
    refine takes_raw.next (takes_steps.early (body.last ?_))
    rw [Segment.reverse_quoted]
    exact .pure _
  | double cs =>
    have body : Takes bound (double d (bound + 2) (.mark :: acc)) (cs ++ ['"']) (ds ++ rest) _ :=
      takes_double d h (Segment.length_lt_of_quoted room)
    refine (takes_peek (by decide)).early ?_
    refine Takes.bind (a := ((Segment.double cs).word.reverse ++ acc, true)) ?_ later
    refine takes_raw.next (takes_steps.early (body.last ?_))
    rw [show (Segment.double cs).word = (Segment.single cs).word from rfl, Segment.reverse_quoted]
    exact .pure _

/-- Segments without any text between them are read as one word, up to a character that ends it. -/
theorem takes_row (d : Deeper) {row : List Segment} (h : ∀ x ∈ row, x.Plain)
    (room : ∀ x ∈ row, x.text.length ≤ bound) (steps : row.length < n) (q : Bool)
    (ended : rest.head?.all endsWord = true) :
    Takes bound (plain d n acc q) (row.flatMap Segment.text) rest
      (acc.reverse ++ row.flatMap Segment.word, q || row.any Segment.isQuoted) := by
  induction row generalizing n acc q with
  | nil =>
    obtain ⟨n, rfl⟩ := Nat.exists_eq_add_one_of_ne_zero (Nat.ne_of_gt steps)
    rw [List.flatMap_nil, List.flatMap_nil, List.append_nil, List.any_nil, Bool.or_false]
    cases rest with
    | nil => exact takes_peek_end.early (.pure _)
    | cons c rest =>
      have ends : endsWord c = true := by simpa using ended
      have other : c ≠ '\\' := by
        rintro rfl
        exact absurd ends (by decide)
      refine (takes_peek other).early ?_
      simp only [ends]
      exact .pure _
  | cons x row ih =>
    obtain ⟨n, rfl⟩ := Nat.exists_eq_add_one_of_ne_zero (Nat.ne_of_gt (Nat.zero_lt_of_lt steps))
    rw [List.forall_mem_cons] at h room
    have later : Takes bound (plain d n (x.word.reverse ++ acc) (q || x.isQuoted)) _ rest _ :=
      ih h.2 room.2 (Nat.lt_of_succ_lt_succ steps) _
    rw [List.reverse_append, List.reverse_reverse, List.append_assoc, Bool.or_assoc] at later
    exact takes_segment d h.1 room.1 later

/-- The text of a word that is read in whatever place, up to a character that ends it. -/
def IsWord (text : List Char) (w : Word) (quoted : Bool) : Prop :=
  ∀ (d : Deeper) (bound : Nat) (rest : List Char), text.length ≤ bound →
    rest.head?.all endsWord = true →
      Takes bound (steps >>= fun n => plain d n [] false) text rest (w, quoted)

theorem isWord_row {row : List Segment} (h : ∀ x ∈ row, x.Plain) :
    IsWord (row.flatMap Segment.text) (row.flatMap Segment.word) (row.any Segment.isQuoted) := by
  intro d bound rest room ended
  have inside : ∀ x ∈ row, x.text.length ≤ bound := fun x known =>
    Nat.le_trans (Segment.length_text_le known) room
  have enough : row.length < bound + 2 := by
    have short := Segment.length_le row
    omega
  exact takes_steps.early (takes_row d h inside enough false ended)

end Reader

end SupervisedShell.Script
