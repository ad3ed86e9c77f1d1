/-!
Why a text is no regular expression, and the report that shows the place: the expression line by
line, with carets under the part in question.
-/

set_option autoImplicit false

namespace SupervisedShell.Regex

/-- A part of an expression, counted in characters. -/
structure Span where
  start : Nat
  stop : Nat
  deriving DecidableEq, Repr

inductive FaultKind where
  | classEscape
  | classRange
  | classRangeBound
  | classUnclosed
  | decimalEmpty
  | decimalInvalid
  | hexEmpty
  | hexNoScalar
  | hexDigit
  | escapeIncomplete
  | escapeUnknown
  | flagDangling
  | flagDuplicate
  | flagRepeatedNegation
  | flagMissing
  | flagUnknown
  | nameDuplicate
  | nameEmpty
  | nameCharacter
  | nameUnclosed
  | groupUnclosed
  | groupUnopened
  | countRange
  | countEmpty
  | countUnclosed
  | nothingToRepeat
  | boundaryUnclosed
  | boundaryUnknown
  | boundaryOrCountUnclosed
  | propertyMalformed
  | backreference
  | lookAround
  | notUnicode
  | illFormed
  | propertyUnknown
  | propertyValueUnknown
  | nesting
  deriving DecidableEq, Repr

def FaultKind.message : FaultKind → String
  | .classEscape => "invalid escape sequence found in character class"
  | .classRange => "invalid character class range, the start must be <= the end"
  | .classRangeBound => "invalid range boundary, must be a literal"
  | .classUnclosed => "unclosed character class"
  | .decimalEmpty => "decimal literal empty"
  | .decimalInvalid => "decimal literal invalid"
  | .hexEmpty => "hexadecimal literal empty"
  | .hexNoScalar => "hexadecimal literal is not a Unicode scalar value"
  | .hexDigit => "invalid hexadecimal digit"
  | .escapeIncomplete => "incomplete escape sequence, reached end of pattern prematurely"
  | .escapeUnknown => "unrecognized escape sequence"
  | .flagDangling => "dangling flag negation operator"
  | .flagDuplicate => "duplicate flag"
  | .flagRepeatedNegation => "flag negation operator repeated"
  | .flagMissing => "expected flag but got end of regex"
  | .flagUnknown => "unrecognized flag"
  | .nameDuplicate => "duplicate capture group name"
  | .nameEmpty => "empty capture group name"
  | .nameCharacter => "invalid capture group character"
  | .nameUnclosed => "unclosed capture group name"
  | .groupUnclosed => "unclosed group"
  | .groupUnopened => "unopened group"
  | .countRange => "invalid repetition count range, the start must be <= the end"
  | .countEmpty => "repetition quantifier expects a valid decimal"
  | .countUnclosed => "unclosed counted repetition"
  | .nothingToRepeat => "repetition operator missing expression"
  | .boundaryUnclosed =>
    "special word boundary assertion is either unclosed or contains an invalid character"
  | .boundaryUnknown =>
    "unrecognized special word boundary assertion, valid choices are: start, end, start-half or " ++
      "end-half"
  | .boundaryOrCountUnclosed =>
    "found either the beginning of a special word boundary or a bounded repetition on a \\b " ++
      "with an opening brace, but no closing brace"
  | .propertyMalformed => "invalid Unicode character class"
  | .backreference => "backreferences are not supported"
  | .lookAround => "look-around, including look-ahead and look-behind, is not supported"
  | .notUnicode => "Unicode not allowed here"
  | .illFormed => "pattern can match invalid UTF-8"
  | .propertyUnknown => "Unicode property not found"
  | .propertyValueUnknown => "Unicode property value not found"
  | .nesting => "exceed the maximum number of nested parentheses/brackets (250)"

structure Fault where
  kind : FaultKind
  span : Span
  also? : Option Span
  deriving DecidableEq, Repr

def place (text : List Char) (i : Nat) : Nat × Nat :=
  let before := text.take i
  (before.count '\n', (before.reverse.takeWhile (· ≠ '\n')).length)

def withoutReturn (line : List Char) : List Char :=
  if line.getLast? = some '\r' then line.dropLast else line

/-- The lines of a text. A line feed at the end begins no further line. -/
def textLines (text : List Char) : List (List Char) :=
  let pieces := text.splitOnP (· = '\n')
  match pieces.getLast? with
  | some [] => pieces.dropLast.map withoutReturn
  | _ => (pieces.dropLast.map withoutReturn) ++ pieces.getLast?.toList

def carets (at_ : Nat) : List (Nat × Nat) → List Char
  | [] => []
  | (start, stop) :: rest =>
    let width := max 1 (stop - start)
    List.replicate (start - at_) ' ' ++ List.replicate width '^' ++
      carets (max at_ start + width) rest

def marksBefore (m n : Nat × Nat) : Bool := m.1 < n.1 || (m.1 = n.1 && m.2 ≤ n.2)

namespace Fault

def spans (f : Fault) : List Span := f.span :: f.also?.toList

def marks (text : List Char) (f : Fault) (line : Nat) : List (Nat × Nat) :=
  let here := f.spans.filter fun s => (place text s.start).1 = line && (place text s.stop).1 = line
  (here.map fun s => ((place text s.start).2, (place text s.stop).2)).mergeSort marksBefore

def padLeft (width : Nat) (s : String) : String :=
  String.ofList (List.replicate (width - s.length) ' ') ++ s

def notated (text : List Char) (f : Fault) : String :=
  let lines := textLines text
  let count := lines.length + if text.getLast? = some '\n' then 1 else 0
  let width := if count ≤ 1 then 0 else (toString count).length
  let indent := if width = 0 then 4 else 2 + width
  let head (i : Nat) : String :=
    if width = 0 then "    " else s!"{padLeft width (toString (i + 1))}: "
  String.join (lines.zipIdx.map fun (line, i) =>
    let shown := head i ++ String.ofList line ++ "\n"
    match f.marks text i with
    | [] => shown
    | ms => shown ++ String.ofList (List.replicate indent ' ' ++ carets 0 ms) ++ "\n")

def acrossLines (text : List Char) (f : Fault) : List String :=
  let long := f.spans.filter fun s => (place text s.start).1 ≠ (place text s.stop).1
  long.map fun s =>
    let (a, b) := place text s.start
    let (c, d) := place text s.stop
    s!"on line {a + 1} (column {b + 1}) through line {c + 1} (column {d})"

def report (pattern : String) (f : Fault) : String :=
  let text := pattern.toList
  let rule := String.ofList (List.replicate 79 '~') ++ "\n"
  let (above, below) := if text.contains '\n' then (rule, rule) else ("", "")
  let across := f.acrossLines text
  let notes := if across.isEmpty then "" else "\n".intercalate across ++ "\n"
  s!"regex parse error:\n{above}{f.notated text}{below}{notes}error: {f.kind.message}"

end Fault

end SupervisedShell.Regex
