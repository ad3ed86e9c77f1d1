import SupervisedShell.Regex.Fault
import SupervisedShell.Unicode.Query

set_option autoImplicit false

namespace SupervisedShell.Regex

structure Letter where
  c : Char
  isOctet : Bool
  span : Span
  deriving DecidableEq, Repr

/-- The letter behind a backslash, of which a large one means what is left. -/
inductive Perl where
  | digit
  | space
  | word
  deriving DecidableEq, Repr

inductive SetOperation where
  | intersection
  | difference
  | symmetricDifference
  deriving DecidableEq, Repr

inductive SetItem where
  | letter (l : Letter)
  | range (lo hi : Letter)
  | named (span : Span) (negated : Bool) (s : CharSet)
  | perl (span : Span) (negated : Bool) (p : Perl)
  | property (span : Span) (negated : Bool) (q : Unicode.Query)
  deriving DecidableEq, Repr

def SetItem.span : SetItem → Span
  | .letter l => l.span
  | .range lo hi => ⟨lo.span.start, hi.span.stop⟩
  | .named s _ _ | .perl s _ _ | .property s _ _ => s

inductive SetTerm where
  | nothing (span : Span)
  | item (i : SetItem)
  | brackets (span : Span) (negated : Bool) (body : SetTerm)
  | also (a b : SetTerm)
  | union (span : Span) (items : SetTerm)
  | operation (span : Span) (op : SetOperation) (left right : SetTerm)
  deriving DecidableEq, Repr

def SetTerm.span : SetTerm → Span
  | .nothing s | .brackets s _ _ | .union s _ | .operation s _ _ _ => s
  | .item i => i.span
  | .also a b => ⟨a.span.start, b.span.stop⟩

/-- What a place in a text may be asked for. What it means depends on flags. -/
inductive Place where
  | lineStart
  | lineStop
  | start
  | stop
  | boundary
  | noBoundary
  | wordStart
  | wordStop
  | halfStart
  | halfStop
  deriving DecidableEq, Repr

abbrev Changes := List (Char × Bool)

inductive Term where
  | empty (span : Span)
  | setting (span : Span) (changes : Changes)
  | letter (l : Letter)
  | dot (span : Span)
  | place (span : Span) (p : Place)
  | perl (span : Span) (negated : Bool) (p : Perl)
  | property (span : Span) (negated : Bool) (q : Unicode.Query)
  | set (span : Span) (negated : Bool) (body : SetTerm)
  | repeated (span : Span) (least : Nat) (most? : Option Nat) (greedy : Bool) (body : Term)
  | group (span : Span) (number? : Option Nat) (changes : Changes) (body : Term)
  | also (a b : Term)
  | sequence (span : Span) (parts : Term)
  | or (a b : Term)
  | alternatives (span : Span) (branches : Term)
  deriving DecidableEq, Repr

def Term.span : Term → Span
  | .empty s | .setting s _ | .dot s | .place s _ | .perl s _ _ | .property s _ _ | .set s _ _
  | .repeated s _ _ _ _ | .group s _ _ _ | .sequence s _ | .alternatives s _ => s
  | .letter l => l.span
  | .also a b | .or a b => ⟨a.span.start, b.span.stop⟩

end SupervisedShell.Regex
