import SupervisedShell.Text.CaseFold
import SupervisedShell.Text.Ranges
/-!
Sets of characters as ranges in rising order that neither overlap nor touch, so that two sets are
equal exactly when they have the same ranges.
-/

set_option autoImplicit false

namespace SupervisedShell

structure CharSet where
  ranges : List (Nat × Nat)
  deriving DecidableEq, Repr

namespace CharSet

def empty : CharSet := ⟨[]⟩

def isEmpty (s : CharSet) : Bool := s.ranges.isEmpty

def last : Nat := 0x10FFFF

def all : CharSet := ⟨[(0, last)]⟩

def single (c : Char) : CharSet := ⟨[(c.toNat, c.toNat)]⟩

/-- The number behind another one. Surrogates are no characters. -/
def next (n : Nat) : Nat := if n = 0xD7FF then 0xE000 else n + 1

def previous (n : Nat) : Nat := if n = 0xE000 then 0xD7FF else n - 1

/-- Joins ranges in rising order of their beginnings, a first one and those behind it. -/
def joined : Nat × Nat → List (Nat × Nat) → List (Nat × Nat)
  | r, [] => [r]
  | (lo, hi), (lo', hi') :: rest =>
    if lo' ≤ hi + 1 then joined (lo, max hi hi') rest else (lo, hi) :: joined (lo', hi') rest

def ofSorted : List (Nat × Nat) → CharSet
  | [] => .empty
  | r :: rest => ⟨joined r rest⟩

def ofRanges (rs : List (Nat × Nat)) : CharSet := ofSorted (rs.mergeSort fun a b => a.1 ≤ b.1)

def merged : List (Nat × Nat) → List (Nat × Nat) → List (Nat × Nat)
  | [], t => t
  | s, [] => s
  | a :: s, b :: t => if a.1 ≤ b.1 then a :: merged s (b :: t) else b :: merged (a :: s) t
termination_by s t => s.length + t.length

def union (s t : CharSet) : CharSet := ofSorted (merged s.ranges t.ranges)

def gaps (start : Nat) : List (Nat × Nat) → List (Nat × Nat)
  | [] => if start ≤ last then [(start, last)] else []
  | (lo, hi) :: rest =>
    let behind := gaps (next hi) rest
    if start < lo then (start, previous lo) :: behind else behind

def complement (s : CharSet) : CharSet := ⟨gaps 0 s.ranges⟩

def common : List (Nat × Nat) → List (Nat × Nat) → List (Nat × Nat)
  | [], _ => []
  | _, [] => []
  | (a, b) :: s, (c, d) :: t =>
    let behind := if b < d then common s ((c, d) :: t) else common ((a, b) :: s) t
    if max a c ≤ min b d then (max a c, min b d) :: behind else behind
termination_by s t => s.length + t.length

def intersection (s t : CharSet) : CharSet := ofSorted (common s.ranges t.ranges)

def difference (s t : CharSet) : CharSet := s.intersection t.complement

def symmetricDifference (s t : CharSet) : CharSet := (s.union t).difference (s.intersection t)

def holds (s : CharSet) (n : Nat) : Bool := s.ranges.any fun r => r.1 ≤ n && n ≤ r.2

def contains (s : CharSet) (c : Char) : Bool := s.holds c.toNat

def isAscii (s : CharSet) : Bool := s.ranges.all fun r => r.2 ≤ 0x7F

def single? (s : CharSet) : Option Char :=
  match s.ranges with
  | [(lo, hi)] => if lo = hi then some (Char.ofNat lo) else none
  | _ => none

def sources (r : Text.FoldRow) : List Nat :=
  (List.range ((r.hi - r.lo) / r.step + 1)).map fun i => r.lo + i * r.step

def shifted (r : Text.FoldRow) (n : Nat) : Nat := ((n : Int) + r.shift).toNat

def points (ns : List Nat) : CharSet := .ofRanges (ns.map fun n => (n, n))

def overlaps (s : CharSet) (lo hi : Nat) : Bool := s.ranges.any fun r => r.1 ≤ hi && lo ≤ r.2

/-- Every case of every member: what the members fold to, and then all that folds to
one of these. -/
def folded (s : CharSet) : CharSet :=
  let forward := Text.foldRows.flatMap fun r =>
    if s.overlaps r.lo r.hi then ((sources r).filter s.holds).map (shifted r) else []
  let t := s.union (points forward)
  let back := Text.foldRows.flatMap fun r =>
    if t.overlaps (shifted r r.lo) (shifted r r.hi) then
      (sources r).filter fun n => t.holds (shifted r n)
    else []
  t.union (points back)

def foldedAscii (s : CharSet) : CharSet :=
  let small := s.ranges.map fun r => (max r.1 0x41 + 0x20, min r.2 0x5A + 0x20)
  let large := s.ranges.map fun r => (max r.1 0x61 - 0x20, min r.2 0x7A - 0x20)
  s.union (.ofRanges ((small ++ large).filter fun r => r.1 ≤ r.2))

def hexValue (ds : List Char) : Nat :=
  ds.foldl
    (fun n d => n * 16 + (if d.isDigit then d.toNat - 0x30 else d.toNat - 0x37)) 0

/-- An entry of a table: a number, a range `lo-hi`, or `lo-hi:step` for every so many of a range. -/
def entry (word : List Char) : List (Nat × Nat) :=
  match word.splitOnP fun c => c = '-' || c = ':' with
  | [n] => [(hexValue n, hexValue n)]
  | [lo, hi] => [(hexValue lo, hexValue hi)]
  | [lo, hi, step] =>
    (List.range ((hexValue hi - hexValue lo) / hexValue step + 1)).map fun i =>
      let n := hexValue lo + i * hexValue step
      (n, n)
  | _ => []

/-- The words of a table, which may go over several lines. -/
def words (text : String) : List (List Char) :=
  (text.toList.splitOnP fun c => c = ' ' || c = '\n').filter (· ≠ [])

def ofTable (text : String) : CharSet := ofSorted ((words text).flatMap entry)

end CharSet

end SupervisedShell
