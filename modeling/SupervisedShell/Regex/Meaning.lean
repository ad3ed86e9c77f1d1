import SupervisedShell.Regex.Basic
import SupervisedShell.Regex.Syntax
import SupervisedShell.Text.Blank
import SupervisedShell.Text.Word
/-!
What an expression means, under the flags that hold where a part stands. The first part without a
meaning is the fault.
-/

set_option autoImplicit false

namespace SupervisedShell.Regex

structure Flags where
  anyCase : Bool
  multiLine : Bool
  dotAll : Bool
  swapGreed : Bool
  unicode : Bool
  crlf : Bool
  deriving DecidableEq, Repr

namespace Flags

def standard : Flags := ⟨false, false, false, false, true, false⟩

def put (f : Flags) (change : Char × Bool) : Flags :=
  match change with
  | ('i', v) => { f with anyCase := v }
  | ('m', v) => { f with multiLine := v }
  | ('s', v) => { f with dotAll := v }
  | ('U', v) => { f with swapGreed := v }
  | ('u', v) => { f with unicode := v }
  | ('R', v) => { f with crlf := v }
  | _ => f

def change (f : Flags) (cs : Changes) : Flags := cs.foldl put f

end Flags

abbrev Meaning := Except Fault

def refuse {α : Type} (kind : FaultKind) (span : Span) : Meaning α := throw ⟨kind, span, none⟩

def asciiWord : CharSet := .ofTable "30-39 41-5A 5F 61-7A"

def word (unicode : Bool) : CharSet := if unicode then .ofRanges Text.wordCharacters else asciiWord

def Perl.characters (unicode : Bool) : Perl → CharSet
  | .digit => if unicode then .ofRanges Text.decimalDigits else .ofTable "30-39"
  | .space => if unicode then .ofRanges Text.blanks else .ofTable "9-D 20"
  | .word => Regex.word unicode

def checked (f : Flags) (span : Span) (s : CharSet) : Meaning CharSet :=
  if f.unicode ∨ s.isAscii then return s else refuse .illFormed span

def fold (f : Flags) (s : CharSet) : CharSet :=
  if !f.anyCase then s else if f.unicode then s.folded else s.foldedAscii

def negate (negated : Bool) (s : CharSet) : CharSet := if negated then s.complement else s

/-- A set with all cases of its members, if case does not matter, and then what it leaves out. -/
def closed (f : Flags) (span : Span) (negated : Bool) (s : CharSet) : Meaning CharSet :=
  checked f span (negate negated (fold f s))

def perlSet (f : Flags) (span : Span) (negated : Bool) (p : Perl) : Meaning CharSet :=
  checked f span (negate negated (p.characters f.unicode))

def propertySet (f : Flags) (span : Span) (negated : Bool) (q : Unicode.Query) : Meaning CharSet :=
  if !f.unicode then refuse .notUnicode span
  else
    match q.characters with
    | .ok s => closed f span negated s
    | .error .property => refuse .propertyUnknown span
    | .error .value => refuse .propertyValueUnknown span

def checkLetter (f : Flags) (l : Letter) : Meaning Unit :=
  if !f.unicode ∧ l.isOctet ∧ 0x7F < l.c.toNat then refuse .illFormed l.span else pure ()

def checkMember (f : Flags) (l : Letter) : Meaning Unit := do
  checkLetter f l
  if !f.unicode ∧ 0x7F < l.c.toNat then refuse .notUnicode l.span

def SetItem.characters (f : Flags) : SetItem → Meaning CharSet
  | .letter l => do
    checkMember f l
    return .single l.c
  | .range lo hi => do
    checkMember f lo
    checkMember f hi
    return .ofRanges [(lo.c.toNat, hi.c.toNat)]
  | .named span negated s => closed f span negated s
  | .perl span negated p => perlSet f span negated p
  | .property span negated q => propertySet f span negated q

def SetOperation.apply : SetOperation → CharSet → CharSet → CharSet
  | .intersection => .intersection
  | .difference => .difference
  | .symmetricDifference => .symmetricDifference

def SetTerm.characters (f : Flags) : SetTerm → Meaning CharSet
  | .nothing _ => return .empty
  | .item i => i.characters f
  | .brackets span negated body => do closed f span negated (← body.characters f)
  | .also a b => do return (← a.characters f).union (← b.characters f)
  | .union _ items => items.characters f
  | .operation _ op a b => do
    let left ← a.characters f
    let right ← b.characters f
    return op.apply (fold f left) (fold f right)

def Place.look (f : Flags) : Place → Look
  | .lineStart => if f.multiLine then .lineStart f.crlf else .start
  | .lineStop => if f.multiLine then .lineStop f.crlf else .stop
  | .start => .start
  | .stop => .stop
  | .boundary => .boundary (word f.unicode)
  | .noBoundary => .noBoundary (word f.unicode)
  | .wordStart => .wordStart (word f.unicode)
  | .wordStop => .wordStop (word f.unicode)
  | .halfStart => .halfStart (word f.unicode)
  | .halfStop => .halfStop (word f.unicode)

def letterMeaning (f : Flags) (l : Letter) : Meaning Regex := do
  checkLetter f l
  return ofSet (fold f (.single l.c))

def dotMeaning (f : Flags) (span : Span) : Meaning Regex :=
  if !f.unicode then refuse .illFormed span
  else if f.dotAll then return .set .all
  else if f.crlf then return .set (CharSet.ofTable "A D").complement
  else return .set (CharSet.single '\n').complement

/-- The meanings of parts that hang together, or of one part, and the flags that hold
behind them. -/
def Term.meanings (f : Flags) : Term → Meaning (List Regex × Flags)
  | .empty _ => return ([.empty], f)
  | .setting _ changes => return ([.empty], f.change changes)
  | .letter l => do return ([← letterMeaning f l], f)
  | .dot span => do return ([← dotMeaning f span], f)
  | .place _ p => return ([.look (p.look f)], f)
  | .perl span negated p => do return ([ofSet (← perlSet f span negated p)], f)
  | .property span negated q => do return ([ofSet (← propertySet f span negated q)], f)
  | .set span negated body => do
    return ([ofSet (← closed f span negated (← body.characters f))], f)
  | .repeated _ least most? greedy body => do
    let (rs, behind) ← body.meanings f
    return ([repetition (Regex.sequence rs) least most? (greedy != f.swapGreed)], behind)
  | .group _ number? changes body => do
    let (rs, _) ← body.meanings (f.change changes)
    let r := Regex.sequence rs
    return ([number?.elim r (.group · r)], f)
  | .sequence _ parts => do
    let (rs, f) ← parts.meanings f
    return ([Regex.sequence rs], f)
  | .alternatives _ parts => do
    let (rs, f) ← parts.meanings f
    return ([Regex.alternatives rs], f)
  | .also a b | .or a b => do
    let (rs, f) ← a.meanings f
    let (ss, f) ← b.meanings f
    return (rs ++ ss, f)

def Term.meaning (t : Term) : Meaning Regex := do
  let (rs, _) ← t.meanings .standard
  return Regex.sequence rs

end SupervisedShell.Regex
