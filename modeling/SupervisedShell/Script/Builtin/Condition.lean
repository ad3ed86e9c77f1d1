import SupervisedShell.Script.Builtin.Operand
/-!
Conditions: comparisons of texts and numbers, and questions about files, joined by `-a`, `-o`, a
mark of negation and parentheses. What an argument means depends on those around it.
-/

set_option autoImplicit false

namespace SupervisedShell.Script.Builtin.Condition

inductive Question where
  | isEmpty
  | isFilled
  | readable
  | writable
  | executable
  | exists_
  | regular
  | directory
  | character
  | link
  | pipe
  | filled
  | terminal
  | mode (bit : Nat)
  | never
  deriving DecidableEq, Repr

inductive Comparison where
  | text (holds : Ordering → Bool)
  | number (holds : Ordering → Bool)
  | same
  | newer
  | older

inductive Sign where
  | question (q : Question)
  | comparison (c : Comparison)
  | not
  | and
  | or
  | open
  | close

def questions : List (String × Question) :=
  [("-z", .isEmpty), ("-n", .isFilled), ("-r", .readable), ("-w", .writable), ("-x", .executable),
    ("-e", .exists_), ("-f", .regular), ("-d", .directory), ("-c", .character), ("-b", .never),
    ("-p", .pipe), ("-S", .never), ("-h", .link), ("-L", .link), ("-s", .filled), ("-t", .terminal),
    ("-u", .mode 0o4000), ("-g", .mode 0o2000), ("-k", .mode 0o1000), ("-O", .exists_),
    ("-G", .exists_)]

def comparisons : List (String × Comparison) :=
  let equal (o : Ordering) : Bool := o = .eq
  let differ (o : Ordering) : Bool := o ≠ .eq
  let less (o : Ordering) : Bool := o = .lt
  let greater (o : Ordering) : Bool := o = .gt
  [("=", .text equal), ("!=", .text differ), ("<", .text less), (">", .text greater),
    ("-eq", .number equal), ("-ne", .number differ), ("-lt", .number less),
    ("-le", .number (· ≠ .gt)), ("-gt", .number greater), ("-ge", .number (· ≠ .lt)),
      ("-ef", .same),
    ("-nt", .newer), ("-ot", .older)]

def sign? (s : String) : Option Sign :=
  match s with
  | "!" => some .not
  | "-a" => some .and
  | "-o" => some .or
  | "(" => some .open
  | ")" => some .close
  | _ =>
    match questions.find? (·.1 = s), comparisons.find? (·.1 = s) with
    | some (_, q), _ => some (.question q)
    | none, some (_, c) => some (.comparison c)
    | none, none => none

def isComparison (s : String) : Bool :=
  match sign? s with
  | some (.comparison _) => true
  | _ => false

/-- What the first of some arguments means there. A question without an operand is none, and so is
one that a comparison follows. -/
def meaning : List String → Option Sign
  | [] => none
  | s :: rest =>
    match sign? s, rest with
    | some (.question _), [] => none
    | some (.question q), [_] => some (.question q)
    | some (.question q), next :: _ :: _ => if isComparison next then none else some (.question q)
    | some .open, [] => none
    | sign?, _ => sign?

def unfit {α : Type} (s message : String) : Act α :=
  Act.fail (if s.isEmpty then message else s!"{s}: {message}")

/-- What stands at a path. -/
inductive Sight where
  | node (n : Node)
  | pipe
  | stream

/-- What stands at a path, links followed. Where the path names a channel of the script,
it is that. -/
def sight? (s : String) (t : Task) (w : World) : Option Sight :=
  match t.walk w s with
  | .ok (_, .device (.descriptor k)) =>
    match t.channel? w k with
    | none => none
    | some (.pipe _) => some .pipe
    | some (.stream _) => some .stream
    | some (.device d) => some (.node (.device d))
    | some (.directory p) | some (.file p _ _) => (w.files.node? p).map .node
  | .ok (_, n) => some (.node n)
  | .error _ => none

def hasContent : Node → Bool
  | .file _ (.bytes b) => !b.isEmpty
  | .device _ => false
  | _ => true

def Question.holdsOf (q : Question) : Sight → Bool
  | .node n =>
    match q with
    | .readable => n.permits .read
    | .writable => n.permits .write
    | .executable => n.permits .execute
    | .exists_ => true
    | .regular => n.isRegular
    | .directory => n.isDirectory
    | .character =>
      match n with
      | .device _ => true
      | _ => false
    | .filled => hasContent n
    | .mode bit => n.mode &&& bit ≠ 0
    | _ => false
  | .pipe => [.readable, .writable, .exists_, .pipe].contains q
  | .stream => [.readable, .writable, .exists_, .regular].contains q

def isLink (s : String) (t : Task) (w : World) : Bool :=
  match w.files.locate t.directory (Octets.toBytes s) false with
  | .ok ⟨_, some (.link _)⟩ | .ok ⟨_, some (.device (.descriptor _))⟩ => true
  | _ => false

def answer (q : Question) (s : String) : Act Bool := do
  match q with
  | .isEmpty => return s.isEmpty
  | .isFilled => return !s.isEmpty
  | .link => Act.seen (isLink s)
  | .terminal => do
    let _ ← integer s
    return false
  | q => return (← Act.seen (sight? s)).any q.holdsOf

def compareTexts (a b : String) : Ordering := if a < b then .lt else if a = b then .eq else .gt

def compareNumbers (a b : Int) : Ordering := if a < b then .lt else if a = b then .eq else .gt

def compare (c : Comparison) (a b : String) : Act Bool := do
  match c with
  | .text holds => return holds (compareTexts a b)
  | .number holds => do
    let x ← integer a
    return holds (compareNumbers x (← integer b))
  | .same => do
    let place? (s : String) (t : Task) (w : World) : Option Place :=
      match t.walk w s with
      | .ok (p, _) => some p
      | .error _ => none
    let places ← Act.seen fun t w => (place? a t w, place? b t w)
    return places.1.isSome && places.1 = places.2
  | .newer => isBefore b a
  | .older => isBefore a b
where
  isBefore (a b : String) : Act Bool := do
    let changed? (s : String) (t : Task) (w : World) : Option Instant :=
      w.files.changed? t.directory (Octets.toBytes s)
    match ← Act.seen fun t w => (changed? a t w, changed? b t w) with
    | (some x, some y) => return x.nanos < y.nanos
    | _ => return false

/-- What is read: one of several, all of several, one negated or not, or one alone. -/
inductive Goal where
  | either
  | both
  | negated
  | single

def read : (steps : Nat) → Goal → List String → Act (Bool × List String)
  | 0, _, args => return (false, args)
  | n + 1, goal, args => do
    match goal with
    | .either => do
      let (a, rest) ← read n .both args
      match meaning rest with
      | some .or => do
        let (b, rest) ← read n .either rest.tail
        return (a || b, rest)
      | _ => return (a, rest)
    | .both => do
      let (a, rest) ← read n .negated args
      match meaning rest with
      | some .and => do
        let (b, rest) ← read n .both rest.tail
        return (a && b, rest)
      | _ => return (a, rest)
    | .negated =>
      match meaning args with
      | some .not => do
        let (a, rest) ← read n .negated args.tail
        return (!a, rest)
      | _ => read n .single args
    | .single =>
      match args, meaning args with
      | [], _ => return (false, [])
      | _ :: rest, some .open => do
        match meaning rest with
        | some .close => return (false, rest.tail)
        | _ => do
          let (a, rest) ← read n .either rest
          match meaning rest with
          | some .close => return (a, rest.tail)
          | _ => Act.fail "closing paren expected"
      | s :: rest, some (.question q) =>
        match rest with
        | [] => unfit s "argument expected"
        | operand :: rest => do return (← answer q operand, rest)
      | s :: rest, _ =>
        match rest, meaning rest with
        | op :: [], some (.comparison _) => unfit op "argument expected"
        | _ :: b :: rest, some (.comparison c) => do return (← compare c s b, rest)
        | _, _ => return (!s.isEmpty, rest)

/-- A condition that uses up all arguments. The last one that it used is to blame if it does not. -/
def whole (args : List String) : Act Bool := do
  let (a, rest) ← read (4 * args.length + 4) .either args
  if rest.isEmpty then return a
  else unfit ((args.take (args.length - rest.length)).getLastD "") "unexpected operator"

def ofArgs (negated : Bool) : List String → Act Bool
  | [] => return false
  | [a, op, b] =>
    match sign? op with
    | some (.comparison c) => do return (← compare c a b) != negated
    | _ =>
      if a = "(" && b = ")" then do return (← whole [op]) != negated
      else if a = "!" then do return !(← whole [op, b])
      else do return (← whole [a, op, b]) != negated
  | [a, b, c, d] =>
    if a = "(" && d = ")" then do return (← whole [b, c]) != negated
    else if a = "!" then ofArgs true [b, c, d]
    else do return (← whole [a, b, c, d]) != negated
  | args => do return (← whole args) != negated
termination_by args => args.length

end SupervisedShell.Script.Builtin.Condition

namespace SupervisedShell.Script.Builtin

def test : Command := fun args => do return if ← Condition.ofArgs false args then 0 else 1

def bracket : Command := fun args => do
  if (args.getLastD "").startsWith "]" then test args.dropLast else Act.fail "missing ]"

end SupervisedShell.Script.Builtin
