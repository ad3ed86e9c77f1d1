import SupervisedShell.Text.ClusterBreak
/-!
A text as grapheme clusters, the units that a reader sees as one character, and the effect of the
backspace: each one takes away the cluster that stands before it, or as much as is known of its
size.
-/

set_option autoImplicit false

namespace SupervisedShell.Text

/-- A pictograph may be continued by marks, and after a joiner by another pictograph. -/
inductive Emoji where
  | none
  | open
  | joined
  deriving DecidableEq, Repr

/-- A consonant may be continued by marks, and after a linker by another consonant. -/
inductive Conjunct where
  | none
  | open
  | linked
  deriving DecidableEq, Repr

/-- What the rules need to know of the characters so far. -/
structure Boundary where
  last : ClusterBreak
  oddRegional : Bool
  emoji : Emoji
  conjunct : Conjunct
  deriving DecidableEq, Repr

namespace Boundary

def afterEmoji (before : Emoji) : ClusterBreak → Emoji
  | .pictograph => .open
  | .extend => if before = .open then .open else .none
  | .joiner => if before = .open then .joined else .none
  | _ => .none

def afterConjunct (before : Conjunct) (c : Char) (k : ClusterBreak) : Conjunct :=
  if conjunctConsonants.contains c then .open
  else if before = .none then .none
  else if conjunctLinkers.contains c then .linked
  else if (k = .extend || k = .joiner) && c.toNat ≠ 0x200C then before
  else .none

def start (c : Char) : Boundary :=
  let k := ClusterBreak.ofChar c
  ⟨k, k = .regional, afterEmoji .none k, afterConjunct .none c k⟩

def step (b : Boundary) (c : Char) : Boundary :=
  let k := ClusterBreak.ofChar c
  ⟨k, k = .regional && !b.oddRegional, afterEmoji b.emoji k, afterConjunct b.conjunct c k⟩

def continues (b : Boundary) (c : Char) : Bool :=
  match b.last, ClusterBreak.ofChar c with
  | .cr, .lf => true
  | .cr, _ | .lf, _ | .control, _ => false
  | _, .cr | _, .lf | _, .control => false
  | .leading, .leading | .leading, .vowel => true
  | .leading, .openSyllable | .leading, .closedSyllable => true
  | .openSyllable, .vowel | .openSyllable, .trailing => true
  | .vowel, .vowel | .vowel, .trailing => true
  | .closedSyllable, .trailing | .trailing, .trailing => true
  | _, .extend | _, .joiner | _, .spacingMark => true
  | .prepend, _ => true
  | _, .pictograph => b.emoji = .joined
  | .regional, .regional => b.oddRegional
  | _, _ => b.conjunct = .linked && conjunctConsonants.contains c

end Boundary

def clustersFrom (b : Boundary) (held : List Char) : List Char → List (List Char)
  | [] => [held.reverse]
  | c :: rest =>
    if b.continues c then clustersFrom (b.step c) (c :: held) rest
    else held.reverse :: clustersFrom (b.step c) [c] rest

def clusters : List Char → List (List Char)
  | [] => []
  | c :: rest => clustersFrom (.start c) [c] rest

/-- What is typed so far: the characters in reverse, and the sizes of the clusters, the
last one first. -/
structure Typed where
  text : List Char
  sizes : List Nat
  deriving DecidableEq, Repr

namespace Typed

def empty : Typed := ⟨[], []⟩

def sizeOf (cluster : List Char) : Nat := (cluster.map Char.utf8Size).foldl (· + ·) 0 % 256

def dropBytes : Nat → List Char → List Char
  | 0, cs => cs
  | _ + 1, [] => []
  | n + 1, c :: cs => dropBytes (n + 1 - c.utf8Size) cs

def type (t : Typed) (cluster : List Char) : Typed :=
  if cluster = ['\x08'] then
    match t.sizes with
    | [] => t
    | n :: sizes => ⟨dropBytes n t.text, sizes⟩
  else ⟨cluster.reverse ++ t.text, sizeOf cluster :: t.sizes⟩

end Typed

def withoutBackspaces (s : String) : String :=
  String.ofList ((clusters s.toList).foldl Typed.type .empty).text.reverse

end SupervisedShell.Text
