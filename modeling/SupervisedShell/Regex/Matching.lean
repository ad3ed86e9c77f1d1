import SupervisedShell.Regex.Basic

set_option autoImplicit false

namespace SupervisedShell.Regex

namespace Look

def before? (t : Array Char) (i : Nat) : Option Char := if i = 0 then none else t[i - 1]?

def isWord (word : CharSet) (c? : Option Char) : Bool := c?.any word.contains

def holds (t : Array Char) (i : Nat) (l : Look) : Bool :=
  let before := before? t i
  let behind := t[i]?
  match l with
  | .start => i = 0
  | .stop => i = t.size
  | .lineStart false => i = 0 || before = some '\n'
  | .lineStart true => i = 0 || before = some '\n' || (before = some '\r' && behind ≠ some '\n')
  | .lineStop false => i = t.size || behind = some '\n'
  | .lineStop true =>
    i = t.size || behind = some '\r' || (behind = some '\n' && before ≠ some '\r')
  | .boundary w => isWord w before != isWord w behind
  | .noBoundary w => isWord w before == isWord w behind
  | .wordStart w => !isWord w before && isWord w behind
  | .wordStop w => isWord w before && !isWord w behind
  | .halfStart w => !isWord w before
  | .halfStop w => !isWord w behind

end Look

def join : List Nat → List Nat → List Nat
  | [], t => t
  | s, [] => s
  | a :: s, b :: t =>
    if a < b then a :: join s (b :: t)
    else if b < a then b :: join (a :: s) t
    else a :: join s t
termination_by s t => s.length + t.length

/-- The places of the first list that the second one, in rising order too, does not have. -/
def without : List Nat → List Nat → List Nat
  | [], _ => []
  | s, [] => s
  | a :: s, b :: t =>
    if a < b then a :: without s (b :: t)
    else if b < a then without (a :: s) t
    else without s t
termination_by s t => s.length + t.length

/-- Repeats a step so many times as long as it leads to new places, and keeps all on the way. -/
def gather (step : List Nat → List Nat) : Nat → (seen front : List Nat) → List Nat
  | 0, seen, _ => seen
  | n + 1, seen, front =>
    let new := without (step front) seen
    if new.isEmpty then seen else gather step n (join seen new) new

def iterate (step : List Nat → List Nat) : Nat → List Nat → List Nat
  | 0, s => s
  | n + 1, s => if s.isEmpty then [] else iterate step n (step s)

def standsAt (t : Array Char) (i : Nat) : List Char → Bool
  | [] => true
  | c :: rest => t[i]? = some c && standsAt t (i + 1) rest

def ends (t : Array Char) : Regex → List Nat → List Nat
  | .empty, s => s
  | .literal cs, s => s.filterMap fun i => if standsAt t i cs then some (i + cs.length) else none
  | .set cs, s => s.filterMap fun i => if t[i]?.any cs.contains then some (i + 1) else none
  | .look l, s => s.filter fun i => l.holds t i
  | .concat a b, s => ends t b (ends t a s)
  | .either a b, s => join (ends t a s) (ends t b s)
  | .repeated a least most? _, s =>
    let more :=
      match most? with
      | some most => min (most - least) (t.size + 1)
      | none => t.size + 1
    let first := iterate (ends t a) least s
    gather (ends t a) more first first
  | .group _ a, s => ends t a s

def isMatch (r : Regex) (text : String) : Bool :=
  let t := text.toList.toArray
  !(ends t r (List.range (t.size + 1))).isEmpty

end SupervisedShell.Regex
