import SupervisedShell.Proofs.Text.Forms
/-!
Bytes as text by the forms of characters alone. Where the form of a character stands, the character
is read. Where none stands, a replacement character is read for the longest part that begins some
form, and for a single byte if none begins with it. Bytes have one reading by these rules, and it is
the lossy text.
-/

set_option autoImplicit false

namespace SupervisedShell.Utf8

def Begins (part : Bytes) : Prop := ∃ c, part <+: String.utf8EncodeChar c

/-- An ill-formed part: no form stands where it starts, and from there it is the longest part that
begins a form or is a single byte. -/
structure Gap (part rest : Bytes) : Prop where
  nonempty : part ≠ []
  unreadable : ∀ c, ¬ String.utf8EncodeChar c <+: part ++ rest
  begins : part.length = 1 ∨ Begins part
  longest : ∀ other, other <+: part ++ rest → other.length = 1 ∨ Begins other →
    other.length ≤ part.length

inductive Reads : Bytes → List Char → Prop where
  | nil : Reads [] []
  | char (c : Char) {rest : Bytes} {text : List Char} (behind : Reads rest text) :
    Reads (String.utf8EncodeChar c ++ rest) (c :: text)
  | gap {part rest : Bytes} {text : List Char} (gap : Gap part rest) (behind : Reads rest text) :
    Reads (part ++ rest) ('\uFFFD' :: text)

theorem encodeChar_append_inj {c d : Char} {r s : Bytes}
    (same : String.utf8EncodeChar c ++ r = String.utf8EncodeChar d ++ s) : c = d ∧ r = s := by
  have decoded (c : Char) (r : Bytes) : (String.utf8EncodeChar c ++ r).toByteArray.utf8DecodeChar?
      0 = some c := by
    rw [List.toByteArray_append]
    exact ByteArray.utf8DecodeChar?_utf8EncodeChar_append
  have equal : c = d := by
    have both := decoded c r
    rw [same, decoded d s] at both
    exact (Option.some.inj both).symm
  subst equal
  exact ⟨rfl, List.append_cancel_left same⟩

theorem Gap.length_le {part rest other behind : Bytes} (gap : Gap part rest)
    (gap' : Gap other behind)
    (same : part ++ rest = other ++ behind) : part.length ≤ other.length :=
  gap'.longest part (same ▸ List.prefix_append part rest) gap.begins

theorem Reads.unique {bytes : Bytes} {text other : List Char} (h : Reads bytes text)
    (h' : Reads bytes other) :
    text = other := by
  induction h generalizing other with
  | nil =>
    generalize empty : ([] : Bytes) = bytes at h'
    cases h' with
    | nil => rfl
    | char c => simp at empty
    | gap gap =>
      have none := (List.append_eq_nil_iff.mp empty.symm).1
      exact absurd none gap.nonempty
  | @char c rest text behind ih =>
    generalize same : String.utf8EncodeChar c ++ rest = bytes at h'
    cases h' with
    | nil => simp at same
    | char d behind' =>
      obtain ⟨rfl, rfl⟩ := encodeChar_append_inj same
      rw [ih behind']
    | gap gap => exact absurd (same ▸ List.prefix_append _ _) (gap.unreadable c)
  | @gap part rest text gap behind ih =>
    generalize same : part ++ rest = bytes at h'
    cases h' with
    | nil =>
      have none := (List.append_eq_nil_iff.mp same).1
      exact absurd none gap.nonempty
    | char d => exact absurd (same ▸ List.prefix_append _ _) (gap.unreadable d)
    | gap gap' behind' =>
      have length := Nat.le_antisymm (gap.length_le gap' same) (gap'.length_le gap same.symm)
      obtain ⟨rfl, rfl⟩ := List.append_inj same length
      rw [ih behind']

theorem encodeChar_cons (c : Char) : ∃ b t, String.utf8EncodeChar c = b :: t :=
  List.exists_cons_of_ne_nil String.utf8EncodeChar_ne_nil

theorem le_met_of_begins {b : UInt8} {t rest : Bytes} (begins : Begins (b :: t))
    (inside : t <+: rest) :
    t.length ≤ met (Lead.ofByte b).tails rest := by
  obtain ⟨c, last, form⟩ := begins
  obtain ⟨more, rfl⟩ := inside
  have all := (met_of_encodeChar form.symm).1
  have begun := met_of_append _ t last all
  have further := met_le_append (Lead.ofByte b).tails t more
  omega

/-- Where a form stands, all that its first byte says is met. -/
theorem le_met_of_encodeChar {c : Char} {b : UInt8} {rest : Bytes}
    (form : String.utf8EncodeChar c <+: b :: rest) :
    (Lead.ofByte b).tails.length ≤ met (Lead.ofByte b).tails rest := by
  obtain ⟨b', t, start⟩ := encodeChar_cons c
  rw [start] at form
  obtain ⟨rfl, inside⟩ := List.cons_prefix_cons.mp form
  rw [← (met_of_encodeChar start).2]
  exact le_met_of_begins ⟨c, start ▸ List.prefix_rfl⟩ inside

/-- What meets a first byte so far can be made up to a form. -/
theorem begins_of_met {b : UInt8} {t : Bytes} (nonempty : t ≠ [])
    (all : met (Lead.ofByte b).tails t = t.length) :
    Begins (b :: t) := by
  obtain ⟨d, r, rfl⟩ := List.exists_cons_of_ne_nil nonempty
  have short := met_le (Lead.ofByte b).tails (d :: r)
  have whole := met_append_replicate _ _ all (Lead.tails_drop (Lead.ofByte b) r.length)
  generalize made : List.replicate ((Lead.ofByte b).tails.length - (d :: r).length) (0x80 : UInt8) =
    u at whole
  have length : (d :: r ++ u).length = (Lead.ofByte b).tails.length := by
    rw [List.length_append, ← made, List.length_replicate]
    omega
  cases read : (next b (d :: r ++ u)).1 with
  | none =>
    have less := (next_none read).1
    omega
  | some c =>
    have form := next_some read
    obtain ⟨b', t, start⟩ := encodeChar_cons c
    rw [start, List.cons_append] at form
    obtain ⟨rfl, split⟩ := List.cons.inj form
    have size := (met_of_encodeChar start).2
    have same := congrArg List.length split
    rw [List.length_append, length, size] at same
    have nothing : (next b' (d :: r ++ u)).2 = [] := List.length_eq_zero_iff.mp (by omega)
    rw [nothing, List.append_nil] at split
    exact ⟨c, start ▸ split ▸ List.prefix_append (b' :: d :: r) u⟩

theorem gap_of_next {b : UInt8} {rest : Bytes} (unread : (next b rest).1 = none) :
    Gap (b :: rest.take (met (Lead.ofByte b).tails rest))
      (rest.drop (met (Lead.ofByte b).tails rest)) := by
  have less := (next_none unread).1
  have short := met_le_length (Lead.ofByte b).tails rest
  have whole : b :: rest.take (met (Lead.ofByte b).tails rest) ++
      rest.drop (met (Lead.ofByte b).tails rest) =
      b :: rest := by simp
  have length : (rest.take (met (Lead.ofByte b).tails rest)).length =
      met (Lead.ofByte b).tails rest := by
    rw [List.length_take]
    omega
  refine ⟨List.cons_ne_nil _ _, ?unreadable, ?begins, ?longest⟩
  case unreadable =>
    intro c form
    have all := le_met_of_encodeChar (whole ▸ form)
    omega
  case begins =>
    by_cases alone : rest.take (met (Lead.ofByte b).tails rest) = []
    · exact .inl (by simp [alone])
    · exact .inr (begins_of_met alone (by rw [met_take, length]))
  case longest =>
    intro other inside allowed
    rw [whole] at inside
    rw [List.length_cons, length]
    rcases allowed with one | begins
    · omega
    · cases other with
      | nil => exact Nat.zero_le _
      | cons b' t =>
        obtain ⟨rfl, within⟩ := List.cons_prefix_cons.mp inside
        exact Nat.succ_le_succ (le_met_of_begins begins within)

theorem reads_pieces (bytes : Bytes) : Reads bytes ((pieces bytes).map (·.getD '\uFFFD')) := by
  fun_induction pieces bytes with
  | case1 => exact .nil
  | case2 b rest ih =>
    cases read : (next b rest).1 with
    | some c =>
      rw [← next_some read]
      exact .char c ih
    | none =>
      have behind := (next_none read).2
      rw [behind] at ih ⊢
      have part := Reads.gap (gap_of_next read) ih
      rwa [List.cons_append, List.take_append_drop] at part

theorem reads_iff {bytes : Bytes} {text : List Char} :
    Reads bytes text ↔ text = (lossy bytes).toList := by
  have shown : Reads bytes (lossy bytes).toList := by
    rw [lossy, String.toList_ofList]
    exact reads_pieces bytes
  constructor
  · exact fun h => h.unique shown
  · rintro rfl
    exact shown

/-- A part that only begins a form is one gap; bytes that begin nothing are gaps one by one. -/
example : lossy [0xE2, 0x82, 0x41, 0xF0, 0x80, 0x80] = "\uFFFDA\uFFFD\uFFFD\uFFFD" := by
  decide +kernel

theorem Reads.chars {rest : Bytes} {text : List Char} (behind : Reads rest text) (cs : List Char) :
    Reads (cs.flatMap String.utf8EncodeChar ++ rest) (cs ++ text) := by
  induction cs with
  | nil => exact behind
  | cons c cs ih =>
    rw [List.flatMap_cons, List.append_assoc]
    exact .char c ih

theorem lossy_encode (s : String) : lossy (encode s) = s := by
  have whole := Reads.nil.chars s.toList
  rw [List.append_nil, List.append_nil] at whole
  exact (String.toList_inj.mp (reads_iff.mp whole)).symm

theorem next_encodeChar {c : Char} {b : UInt8} {t : Bytes} (form : String.utf8EncodeChar c = b :: t)
    (rest : Bytes) : next b (t ++ rest) = (some c, rest) := by
  have here : b :: (t ++ rest) = String.utf8EncodeChar c ++ rest := by rw [form, List.cons_append]
  cases read : (next b (t ++ rest)).1 with
  | none =>
    have gap := (gap_of_next read).unreadable c
    rw [List.cons_append, List.take_append_drop, here] at gap
    exact absurd (List.prefix_append _ _) gap
  | some d =>
    obtain ⟨rfl, behind⟩ := encodeChar_append_inj ((next_some read).trans here)
    exact Prod.ext read behind

theorem pieces_encodeChar (c : Char) (rest : Bytes) :
    pieces (String.utf8EncodeChar c ++ rest) = some c :: pieces rest := by
  obtain ⟨b, t, form⟩ := encodeChar_cons c
  rw [form, List.cons_append, pieces, next_encodeChar form]

theorem pieces_eq_map_some_iff {bytes : Bytes} {cs : List Char} :
    pieces bytes = cs.map some ↔ bytes = cs.flatMap String.utf8EncodeChar := by
  constructor
  · intro read
    fun_induction pieces bytes generalizing cs with
    | case1 =>
      obtain rfl := List.map_eq_nil_iff.mp read.symm
      rfl
    | case2 b rest ih =>
      obtain ⟨c, cs, rfl, first, behind⟩ := List.map_eq_cons_iff.mp read.symm
      rw [List.flatMap_cons, ← ih behind.symm, next_some first.symm]
  · rintro rfl
    induction cs with
    | nil => rw [List.flatMap_nil, pieces, List.map_nil]
    | cons c cs ih => rw [List.flatMap_cons, pieces_encodeChar, ih, List.map_cons]

theorem mapM_id_eq_some_iff {ps : List (Option Char)} {cs : List Char} :
    ps.mapM id = some cs ↔ ps = cs.map some := by
  induction ps generalizing cs with
  | nil => cases cs <;> simp
  | cons o ps ih =>
    cases o with
    | none => cases cs <;> simp
    | some d =>
      rw [List.mapM_cons]
      cases read : ps.mapM id with
      | none => cases cs <;> simp [← ih, read]
      | some ds => cases cs <;> simp [← ih, read]

/-- Only the encoding of a text can be decoded, and to that text. -/
theorem decode?_eq_some_iff {bytes : Bytes} {s : String} :
    decode? bytes = some s ↔ bytes = encode s := by
  rw [decode?, Option.map_eq_some_iff]
  simp only [mapM_id_eq_some_iff, pieces_eq_map_some_iff]
  constructor
  · rintro ⟨cs, rfl, rfl⟩
    rw [encode, String.toList_ofList]
  · rintro rfl
    exact ⟨s.toList, rfl, String.ofList_toList⟩

/-- A form that is cut off is one gap. -/
theorem gap_of_cut {part : Bytes} {c : Char} (nonempty : part ≠ [])
    (cut : part <+: String.utf8EncodeChar c)
    (short : part ≠ String.utf8EncodeChar c) : Gap part [] := by
  refine ⟨nonempty, fun d form => ?_, .inr ⟨c, cut⟩,
    fun other inside _ => by simpa using inside.length_le⟩
  rw [List.append_nil] at form
  obtain ⟨more, same⟩ := form.trans cut
  rw [← List.append_nil (String.utf8EncodeChar c)] at same
  obtain ⟨rfl, -⟩ := encodeChar_append_inj same
  exact short (cut.eq_of_length_le form.length_le)

theorem reads_of_prefix {bytes : Bytes} {cs : List Char}
    (start : bytes <+: cs.flatMap String.utf8EncodeChar) :
    ∃ whole cut, whole <+: cs ∧ bytes = whole.flatMap String.utf8EncodeChar ++ cut ∧
      Reads cut (if cut = [] then [] else ['\uFFFD']) := by
  induction cs generalizing bytes with
  | nil =>
    rw [List.flatMap_nil, List.prefix_nil] at start
    exact ⟨[], [], List.nil_prefix, start, .nil⟩
  | cons c cs ih =>
    rw [List.flatMap_cons] at start
    by_cases first : String.utf8EncodeChar c <+: bytes
    · obtain ⟨rest, rfl⟩ := first
      obtain ⟨whole, cut, inside, rfl, shown⟩ := ih (List.prefix_append_right_inj _ |>.mp start)
      exact ⟨c :: whole, cut, List.cons_prefix_cons.mpr ⟨rfl, inside⟩, by simp, shown⟩
    · have cut : bytes <+: String.utf8EncodeChar c :=
        (List.prefix_or_prefix_of_prefix start (List.prefix_append _ _)).resolve_right first
      refine ⟨[], bytes, List.nil_prefix, rfl, ?_⟩
      by_cases empty : bytes = []
      · rw [if_pos empty, empty]
        exact .nil
      · have short : bytes ≠ String.utf8EncodeChar c :=
          fun same => first (same ▸ List.prefix_rfl)
        have gap := Reads.gap (gap_of_cut empty cut short) .nil
        rwa [if_neg empty, ← List.append_nil bytes]

/-- What a text shows when not all its bytes are there: the characters that are there as a whole,
and a replacement character in place of one that is cut. -/
theorem lossy_of_prefix {bytes : Bytes} {s : String} (start : bytes <+: encode s) : ∃ whole cut,
    whole <+: s.toList ∧ bytes = encode (.ofList whole) ++ cut ∧
      lossy bytes = .ofList (whole ++ if cut = [] then [] else ['\uFFFD']) := by
  obtain ⟨whole, cut, inside, rfl, shown⟩ := reads_of_prefix start
  refine ⟨whole, cut, inside, by rw [encode, String.toList_ofList], ?_⟩
  rw [← String.toList_inj, String.toList_ofList]
  exact (reads_iff.mp (shown.chars whole)).symm

end SupervisedShell.Utf8
