import SupervisedShell.Log
import SupervisedShell.Regex.Compiled
/-!
Which records of the log are shown. A filter is a list of directives between commas: a level for all
targets, a target for all levels, or `target=level`. The directive with the longest target that a
record's target begins with decides. Behind a slash stands a regular expression that has to match
the text of the record.
-/

set_option autoImplicit false

namespace SupervisedShell.Log

structure Directive where
  target? : Option String
  rank : Nat
  deriving DecidableEq, Repr

structure Filter where
  directives : List Directive
  pattern? : Option Regex
  deriving DecidableEq, Repr

namespace Filter

/-- The rank of a level's name; nothing at all has rank 0. -/
def rank? (name : String) : Option Nat :=
  ["off", "error", "warn", "info", "debug", "trace"].findIdx? (· = name.toLower)

def everything : Nat := Level.trace.rank

def malformed (spec : String) : String := s!"invalid logging spec '{spec}'"

/-- A directive, or the complaint about a malformed one. Blanks around a level do not matter. -/
def directive (spec : String) : Except String Directive :=
  match (spec.toList.splitOnP (· = '=')).map String.ofList with
  | [part] =>
    match rank? part with
    | some rank => .ok ⟨none, rank⟩
    | none => .ok ⟨some part, everything⟩
  | [target, level] =>
    if (Text.trim level).isEmpty then .ok ⟨some target, everything⟩
    else
      match rank? (Text.trim level) with
      | some rank => .ok ⟨some target, rank⟩
      | none => .error (malformed (Text.trim level))
  | _ => .error (malformed spec)

def put (ds : List Directive) (d : Directive) : List Directive :=
  if ds.any (·.target? = d.target?) then ds.map fun e => if e.target? = d.target? then d else e
  else ds ++ [d]

def size (d : Directive) : Nat := (d.target?.getD "").utf8ByteSize

def specs (text : String) : List String :=
  ((text.toList.splitOnP (· = ',')).map fun s => Text.trim (String.ofList s)).filter (· ≠ "")

def complaint? : Except String Directive → Option String
  | .ok _ => none
  | .error c => some c

def pattern (text : String) : Except String Regex :=
  match Regex.ofText text with
  | .ok r => .ok r
  | .error f => .error s!"invalid regex filter - {f.report text}"

def ofDirectives (ds : List Directive) (pattern? : Option Regex) : Filter :=
  ⟨if ds.isEmpty then [⟨none, Level.error.rank⟩] else ds, pattern?⟩

def ofText (text : String) : Filter × List String :=
  match (text.toList.splitOnP (· = '/')).map String.ofList with
  | [] => (ofDirectives [] none, [])
  | mods :: behind =>
    let found := (specs mods).map directive
    let ds := (found.filterMap Except.toOption).foldl put []
    let bad := found.filterMap complaint?
    match behind with
    | [] => (ofDirectives ds none, bad)
    | [p] =>
      match pattern p with
      | .ok r => (ofDirectives ds (some r), bad)
      | .error c => (ofDirectives ds none, bad ++ [c])
    | _ => (ofDirectives [] none, [malformed text ++ " (too many '/'s)"])

def ofLevel (l : Level) : Filter := ⟨[⟨none, l.rank⟩], none⟩

def covers (d : Directive) (target : String) : Bool :=
  match d.target? with
  | some t => t.toList.isPrefixOf target.toList
  | none => true

def closer (best? : Option Directive) (d : Directive) : Option Directive :=
  match best? with
  | some best => if size d < size best then some best else some d
  | none => some d

def shows (f : Filter) (r : Record) : Bool :=
  let fitting := f.directives.filter (covers · r.source.target)
  (fitting.foldl closer none).any (fun d => r.level.rank ≤ d.rank) &&
    f.pattern?.all (·.isMatch r.text)

end Filter

end SupervisedShell.Log
