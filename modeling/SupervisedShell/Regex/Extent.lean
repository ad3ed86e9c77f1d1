import Std.Data.HashMap
import SupervisedShell.Regex.Basic
/-!
The room that an expression takes as an automaton over bytes, once from the first byte to the last
and once the other way. An expression that takes too much room is refused.
-/

set_option autoImplicit false

namespace SupervisedShell.Regex

def mostRoom : Nat := 10485760

abbrev ByteRanges := List (Nat × Nat)

def utf8Bytes (n : Nat) : List Nat :=
  if n < 0x80 then [n]
  else if n < 0x800 then [0xC0 + n / 0x40, 0x80 + n % 0x40]
  else if n < 0x10000 then [0xE0 + n / 0x1000, 0x80 + n / 0x40 % 0x40, 0x80 + n % 0x40]
  else [0xF0 + n / 0x40000, 0x80 + n / 0x1000 % 0x40, 0x80 + n / 0x40 % 0x40, 0x80 + n % 0x40]

/-- Where a range has to be divided: the end of the first part. The surrogates lie between two
parts, characters of one part have equally many bytes, and of these either all are free or
only the last. -/
def division? (lo hi : Nat) : Option Nat :=
  match [0x7F, 0x7FF, 0xFFFF].find? fun m => lo ≤ m ∧ m < hi with
  | some m => some m
  | none =>
    if hi ≤ 0x7F then none
    else
      [0x40, 0x1000, 0x40000].findSome? fun m =>
        if lo / m = hi / m then none
        else if lo % m ≠ 0 then some (lo / m * m + m - 1)
        else if hi % m ≠ m - 1 then some (hi / m * m - 1)
        else none

def byteRanges : Nat → (lo hi : Nat) → List ByteRanges
  | 0, _, _ => []
  | n + 1, lo, hi =>
    if lo < 0xE000 ∧ 0xD7FF < hi then
      (if lo ≤ 0xD7FF then byteRanges n lo 0xD7FF else []) ++ byteRanges n 0xE000 hi
    else
      match division? lo hi with
      | some m => byteRanges n lo m ++ byteRanges n (m + 1) hi
      | none => if lo ≤ hi then [(utf8Bytes lo).zip (utf8Bytes hi)] else []

def CharSet.byteRanges (s : CharSet) : List ByteRanges :=
  s.ranges.flatMap fun r => Regex.byteRanges 64 r.1 r.2

/-- An automaton that is being drawn: how many states it has, and the room for what
leads from them. -/
structure Draft where
  states : Nat
  links : Nat
  deriving DecidableEq, Repr

namespace Draft

def room (d : Draft) : Nat := 32 * d.states + d.links

def isFit (d : Draft) : Bool := d.room ≤ mostRoom

def add (d : Draft) (n : Nat) : Draft := { d with states := d.states + n }

def choose (d : Draft) (n : Nat) : Draft := { d with links := d.links + 4 * n }

def ranges (d : Draft) (n : Nat) : Draft := ⟨d.states + 1, d.links + 8 * n⟩

end Draft

/-- A table that finds what was drawn before by its key. A later entry displaces an earlier one that
has the same slot, so that it has to be drawn again. -/
structure Memory where
  slots : Nat
  entries : Std.HashMap Nat (List Nat × Nat)

namespace Memory

def slot (m : Memory) (key : List Nat) : Nat :=
  let mix (h : UInt64) (k : Nat) : UInt64 := (h ^^^ UInt64.ofNat k) * 1099511628211
  (key.foldl mix 14695981039346656037).toNat % m.slots

def find? (m : Memory) (key : List Nat) : Option Nat :=
  match m.entries[m.slot key]? with
  | some (k, state) => if k = key then some state else none
  | none => none

def put (m : Memory) (key : List Nat) (state : Nat) : Memory :=
  { m with entries := m.entries.insert (m.slot key) (key, state) }

end Memory

/-- A state in the making: the ways out that are drawn, in reverse, and the range of the last one,
of which it is not known yet where it leads. -/
structure Open where
  links : List (Nat × Nat × Nat)
  last? : Option (Nat × Nat)

def Open.close (o : Open) (next : Nat) : List (Nat × Nat × Nat) :=
  match o.last? with
  | some (lo, hi) => (lo, hi, next) :: o.links
  | none => o.links

def drawState (d : Draft) (m : Memory) (links : List (Nat × Nat × Nat)) :
    Draft × Memory × Nat :=
  let key := links.reverse.flatMap fun (lo, hi, next) => [lo, hi, next]
  match m.find? key with
  | some state => (d, m, state)
  | none => (d.ranges links.length, m.put key d.states, d.states)

def closeTo (keep : Nat) (d : Draft) (m : Memory) (next : Nat) :
    List Open → Draft × Memory × List Open
  | [] => (d, m, [])
  | [o] => (d, m, [⟨o.close next, none⟩])
  | o :: rest =>
    if rest.length < keep then (d, m, ⟨o.close next, none⟩ :: rest)
    else
      let (d, m, state) := drawState d m (o.close next)
      closeTo keep d m state rest

def commonRanges : ByteRanges → List Open → Nat
  | r :: rs, o :: os => if o.last? = some r then commonRanges rs os + 1 else 0
  | _, _ => 0

def addForward (target : Nat) (x : Draft × Memory × List Open) (bs : ByteRanges) :
    Draft × Memory × List Open :=
  let (d, m, open_) := x
  let keep := commonRanges bs open_.reverse
  let (d, m, open_) := closeTo (keep + 1) d m target open_
  match bs.drop keep, open_ with
  | r :: rs, o :: rest =>
    (d, m, rs.foldl (fun os r => ⟨[], some r⟩ :: os) ({ o with last? := some r } :: rest))
  | _, _ => (d, m, open_)

def drawForward (s : CharSet) (d : Draft) : Draft :=
  let target := d.states
  let begun := (d.add 1, (⟨10000, {}⟩ : Memory), [(⟨[], none⟩ : Open)])
  let (d, m, open_) := (CharSet.byteRanges s).foldl (addForward target) begun
  let (d, m, open_) := closeTo 1 d m target open_
  let (d, _, _) := drawState d m ((open_.head?.map Open.links).getD [])
  d

/-- A set from the last byte of its characters on, states for the same bytes behind the same
state shared. -/
def drawBackward (s : CharSet) (d : Draft) : Draft :=
  let stop := d.states + 1
  let addByte (x : Draft × Memory × Nat) (r : Nat × Nat) : Draft × Memory × Nat :=
    let (d, m, state) := x
    match m.find? [state, r.1, r.2] with
    | some next => (d, m, next)
    | none => (d.add 1, m.put [state, r.1, r.2] d.states, d.states)
  let addOne (x : Draft × Memory) (bs : ByteRanges) : Draft × Memory :=
    let (d, m, _) := bs.foldl addByte (x.1, x.2, stop)
    (d.choose 1, m)
  ((CharSet.byteRanges s).foldl addOne (d.add 2, ⟨1000, {}⟩)).1

def drawSet (backward : Bool) (s : CharSet) (d : Draft) : Draft :=
  if s.isAscii then (d.add 1).ranges s.ranges.length
  else if backward then drawBackward s d
  else drawForward s d

/-- A state of a tree of words: how many ways out it had whenever a word ended there, and those
since then with the states that they lead to. -/
structure Branching where
  before : List Nat
  now : List (UInt8 × Nat)

def addByte (x : Array Branching × Nat) (b : UInt8) : Array Branching × Nat :=
  let (tree, i) := x
  let here := (tree[i]?).getD ⟨[], []⟩
  match here.now.find? (·.1 = b) with
  | some (_, next) => (tree, next)
  | none =>
    ((tree.setIfInBounds i { here with now := (b, tree.size) :: here.now }).push ⟨[], []⟩,
      tree.size)

def addWord (tree : Array Branching) (bytes : List UInt8) : Array Branching :=
  let (tree, i) := bytes.foldl addByte (tree, 0)
  match tree[i]? with
  | some ⟨before, now⟩ =>
    if before.isEmpty || !(now.isEmpty && before.all (· = 0)) then
      tree.setIfInBounds i ⟨now.length :: before, []⟩
    else tree
  | none => tree

/-- A state that leads nowhere needs none in the automaton. Another one needs one that chooses, and
one for the ways out between two ends of words. -/
def drawBranching (d : Draft) (b : Branching) : Draft :=
  let ways := (b.now.length :: b.before).filter (· ≠ 0)
  if ways.isEmpty then d
  else
    ways.foldl (fun d n => if n = 1 then d.add 1 else d.ranges n)
      ((d.add 1).choose (ways.length + b.before.length))

def drawWords (backward : Bool) (words : List (List Char)) (d : Draft) : Draft :=
  let bytes (w : List Char) : List UInt8 :=
    let bs := (String.ofList w).toUTF8.toList
    if backward then bs.reverse else bs
  let tree := words.foldl (fun tree w => addWord tree (bytes w)) #[⟨[], []⟩]
  tree.foldl drawBranching (d.add 1)

/-- What is drawn, and whether its last state is one that chooses, which takes room for each way out
that is added. -/
abbrev Drawn := Option (Draft × Bool)

def fit (d : Draft) (choosing : Bool) : Drawn := if d.isFit then some (d, choosing) else none

def linked (d : Draft) (choosing : Bool) : Draft := if choosing then d.choose 1 else d

/-- Draws the same so many times in a row, behind a state of the kind that is given. -/
def drawTimes (step : Draft → Drawn) : Nat → Draft → Bool → Drawn
  | 0, d, choosing => some (d, choosing)
  | n + 1, d, choosing =>
    match step d with
    | none => none
    | some (d, next) => drawTimes step n (linked d choosing) next

def drawOptional (step : Draft → Drawn) : Nat → Draft → Bool → Drawn
  | 0, d, choosing => fit (linked d choosing) false
  | n + 1, d, choosing =>
    match step (d.add 1) with
    | none => none
    | some (d, next) => drawOptional step n ((linked d choosing).choose 2) next

def drawExactly (step : Draft → Drawn) : Nat → Draft → Drawn
  | 0, d => fit (d.add 1) false
  | n + 1, d =>
    match step d with
    | none => none
    | some (d, choosing) => drawTimes step n d choosing

def drawRepeated (step : Draft → Drawn) (canBeEmpty : Bool) (least : Nat) (most? : Option Nat)
    (d : Draft) : Drawn :=
  match least, most? with
  | 0, some 1 => do
    let (d, choosing) ← step (d.add 1)
    fit (linked ((d.add 1).choose 2) choosing) false
  | 0, none => do
    if canBeEmpty then
      let (d, choosing) ← step d
      fit (linked ((d.add 3).choose 4) choosing) false
    else
      let (d, choosing) ← step (d.add 1)
      fit (linked (d.choose 1) choosing) true
  | 1, none => do
    let (d, choosing) ← step d
    fit (linked ((d.add 1).choose 1) choosing) true
  | n + 1, none => do
    let (d, choosing) ← drawExactly step n d
    let (d, next) ← step d
    fit (linked (linked ((d.add 1).choose 1) choosing) next) true
  | least, some most =>
    if least = most then drawExactly step least d
    else do
      let (d, choosing) ← drawExactly step least d
      drawOptional step (most - least) (d.add 1) choosing

def words? (rs : List Regex) : Option (List (List Char)) :=
  rs.mapM fun r => match r with
    | .literal t => some t
    | _ => none

def areWords : Regex → Bool
  | .either (.literal _) b => areWords b
  | .literal _ => true
  | _ => false

def drawBranch (d : Draft) (choosing : Bool) : Draft := linked (d.choose 1) choosing

def draw (backward : Bool) : Regex → Draft → Drawn
  | .empty, d => fit (d.add 1) false
  | .literal t, d => fit (d.add (t.foldl (fun n c => n + c.utf8Size) 0)) false
  | .set s, d => fit (drawSet backward s d) false
  | .look _, d => fit (d.add 1) false
  | .concat a b, d =>
    if backward then do
      let (d, choosing) ← draw backward b d
      let (d, next) ← draw backward a d
      fit (linked d choosing) next
    else do
      let (d, choosing) ← draw backward a d
      let (d, next) ← draw backward b d
      fit (linked d choosing) next
  | .either a b, d =>
    if areWords (.either a b) then
      fit (drawWords backward ((words? (branches (.either a b))).getD []) d) false
    else do
      let (d, choosing) ← draw backward a d
      drawOthers b (drawBranch d choosing)
  | .repeated a least most? _, d =>
    drawRepeated (draw backward a) ((least? a).all (· = 0)) least most? d
  | .group _ a, d =>
    if backward then draw backward a d
    else do
      let (d, choosing) ← draw backward a (d.add 1)
      fit (linked (d.add 1) choosing) false
where
  drawOthers : Regex → Draft → Drawn
    | .either a b, d => do
      let (d, choosing) ← draw backward a d
      drawOthers b (drawBranch d choosing)
    | r, d => do
      let (d, choosing) ← draw backward r d
      fit ((drawBranch d choosing).add 2) false

/-- Whether a match can only begin at the start of a text, or only end at the end of one. -/
def isAnchored (backward : Bool) : Regex → Bool
  | .look l => if backward then l = .stop else l = .start
  | .empty | .literal _ | .set _ => false
  | .concat a b =>
    if backward then isAnchored backward b || (isAlwaysEmpty b && isAnchored backward a)
    else isAnchored backward a || (isAlwaysEmpty a && isAnchored backward b)
  | .either a b => isAnchored backward a && isAnchored backward b
  | .repeated a least _ _ => 0 < least && isAnchored backward a
  | .group _ a => isAnchored backward a

/-- The whole automaton: a state that skips bytes, unless matches are anchored, the group around
everything, and the state that tells of a match. -/
def isFit (backward : Bool) (r : Regex) : Bool :=
  let begun : Draft := ⟨0, 0⟩
  let begun := if isAnchored backward r then begun.add 1 else ((begun.add 2).ranges 1).choose 2
  let drawn := do
    let (d, choosing) ← draw backward (.group 0 r) begun
    fit (linked (d.add 1) choosing) false
  drawn.isSome

def isSmall (r : Regex) : Bool := isFit false r && isFit true r

end SupervisedShell.Regex
