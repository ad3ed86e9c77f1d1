import SupervisedShell.Number.Notation
import SupervisedShell.Script.Builtin.Operand
import SupervisedShell.Tool.Echo
import SupervisedShell.Tool.Interval
/-!
Commands that print: their arguments as they are, or as a format lays them out.
-/

set_option autoImplicit false

namespace SupervisedShell.Script.Builtin

open Program (Echo.unescape Echo.commonEscapes Echo.announced? Echo.byte? Echo.octalDigit?)

def echo : Command := fun args => do
  let (words, ending) := if args.head? = some "-n" then (args.tail, "") else (args, "\n")
  let text := " ".intercalate words
  let (text, cut) := Echo.unescape Echo.commonEscapes text
  Act.say (text ++ if cut then "" else ending)
  return 0

/-- How a value is laid out. -/
structure Layout where
  left : Bool
  sign : Bool
  blank : Bool
  zeros : Bool
  marked : Bool
  width : Nat
  precision? : Option Nat

namespace Layout

def start : Layout := ⟨false, false, false, false, false, 0, none⟩

def flag? (x : Layout) (c : Char) : Option Layout :=
  match c with
  | '-' => some { x with left := true }
  | '+' => some { x with sign := true }
  | ' ' => some { x with blank := true }
  | '0' => some { x with zeros := true }
  | '#' => some { x with marked := true }
  | _ => none

def padding (x : Layout) (size : Nat) (c : Char) : String :=
  String.ofList (List.replicate (x.width - size) c)

def text (x : Layout) (s : String) : String :=
  let s := (x.precision?.map fun n => String.ofList (s.toList.take n)).getD s
  if x.left then s ++ x.padding s.length ' ' else x.padding s.length ' ' ++ s

def digits (base : Nat) (upper : Bool) (n : Nat) : String :=
  let ds := String.ofList (Nat.toDigits base n)
  if upper then ds.toUpper else ds

/-- Digits with zeros in front, as many as there have to be. Nothing is left of a zero that
needs none. -/
def filled (x : Layout) (ds : String) : String :=
  match x.precision? with
  | some n =>
    if n = 0 && ds = "0" then "" else String.ofList (List.replicate (n - ds.length) '0') ++ ds
  | none => ds

def number (x : Layout) (before ds : String) : String :=
  let size := before.length + ds.length
  if x.left then before ++ ds ++ x.padding size ' '
  else if x.zeros && x.precision?.isNone then before ++ x.padding size '0' ++ ds
  else x.padding size ' ' ++ before ++ ds

def signOf (x : Layout) (negative : Bool) : String :=
  if negative then "-" else if x.sign then "+" else if x.blank then " " else ""

def signed (x : Layout) (n : Int) : String :=
  x.number (x.signOf (decide (n < 0))) (x.filled (digits 10 false n.natAbs))

def unsigned (x : Layout) (base : Nat) (upper : Bool) (n : Int) : String :=
  let value := (Sum.bits n).toNat
  let ds := x.filled (digits base upper value)
  if !x.marked then x.number "" ds
  else if base = 8 then x.number "" (if ds.toList.head? = some '0' then ds else "0" ++ ds)
  else if base = 16 && value ≠ 0 then x.number (if upper then "0X" else "0x") ds
  else x.number "" ds

/-- The size of a number that may be a fraction. -/
inductive Size where
  | finite (num den : Nat)
  | infinite
  | undefined

/-- A number in one of the notations of fractions, with six places unless others are asked for. A
capital letter makes all letters capitals. -/
def real (x : Layout) (letter : Char) (negative : Bool) (size : Size) : String :=
  let sign := x.signOf negative
  let cased (s : String) : String := if letter.isUpper then s.toUpper else s
  let plain := { x with precision? := none }
  let named (s : String) : String := { plain with zeros := false }.number sign (cased s)
  match size with
  | .finite num den =>
    let places := x.precision?.getD 6
    match letter.toLower with
    | 'a' =>
      plain.number (sign ++ cased "0x") (cased (Notation.binary x.marked x.precision? num den))
    | 'e' => plain.number sign (cased (Notation.scientific x.marked places num den))
    | 'f' => plain.number sign (Notation.fixed x.marked places num den)
    | _ => plain.number sign (cased (Notation.general x.marked places num den))
  | .infinite => named "inf"
  | .undefined => named "nan"

end Layout

def nearest : Numeral → Layout.Size × Bool
  | .infinite => (.infinite, false)
  | .finite digits base places factor e =>
    if digits = 0 then (.finite 0 1, false)
    else if (Numeral.hugeExponent : Int) < e then (.infinite, true)
    else if e < -(Numeral.hugeExponent : Int) then (.finite 0 1, true)
    else
      let num := digits * Nat.pow factor e.toNat
      let den := Nat.pow base places * Nat.pow factor (-e).toNat
      let b := Binary.ofQuotient num den
      if 971 < b.exp then (.infinite, true)
      else if b.exp < -1074 then
        let finest := Nat.pow 2 1074
        let n := Binary.nearestEven (num * finest) den
        (.finite n finest, n * den ≠ num * finest)
      else (.finite (b.mant * Nat.pow 2 b.exp.toNat) (Nat.pow 2 (-b.exp).toNat), false)

/-- The name of what is no number, in front of a text, and what stands behind it. -/
def undefined? (s : List Char) : Option (Bool × List Char) :=
  let (negative, s) :=
    match s.dropWhile Numeral.isSpace with
    | '-' :: r => (true, r)
    | '+' :: r => (false, r)
    | r => (false, r)
  if (s.take 3).map Char.toLower = ['n', 'a', 'n'] then
    let rest := s.drop 3
    match rest with
    | '(' :: inner =>
      match inner.dropWhile isNameChar with
      | ')' :: behind => some (negative, behind)
      | _ => some (negative, rest)
    | _ => some (negative, rest)
  else none

/-- A format at work: the arguments that are left, and the status so far. -/
structure Format where
  args : List String
  used : Bool
  status : Nat

def Format.next (f : Format) : String × Format :=
  match f.args with
  | a :: rest => (a, { f with args := rest, used := true })
  | [] => ("", f)

/-- An argument as a number. A quote in front asks for the code of a character. One that is too
large is the largest there is, and one that is too small is as low as can be. -/
def Format.integer (least most lowest : Int) (f : Format) : Act (Int × Format) := do
  let (a, f) := f.next
  let bad (message : String) (n : Int) : Act (Int × Format) := do
    Act.complain s!"{a}: {message}"
    return (n, { f with status := 1 })
  match a.toList with
  | [] | ['\x27'] | ['"'] => return (0, f)
  | '\x27' :: c :: _ | '"' :: c :: _ => return ((c.toNat : Int), f)
  | cs =>
    let (negative, ds) :=
      match cs.dropWhile Sum.isSpace with
      | '-' :: r => (true, r)
      | '+' :: r => (false, r)
      | r => (false, r)
    if !ds.head?.any Char.isDigit then bad "expected numeric value" 0
    else
      let (n, rest) := Sum.numeral ds
      let n := if negative then -n else n
      let fits := least ≤ n && n ≤ most
      let value := if fits then n else if negative then lowest else most
      if !rest.isEmpty then bad "not completely converted" value
      else if !fits then bad "Numerical result out of range" value
      else return (n, f)

def Format.signed : Format → Act (Int × Format) :=
  Format.integer (-Sum.largest - 1) Sum.largest (-Sum.largest - 1)

def Format.unsigned (f : Format) : Act (Int × Format) := do
  let most := 2 * Sum.largest + 1
  let (n, f) ← f.integer (-most) most most
  return (n % (most + 1), f)

def Format.real (f : Format) : Act (Bool × Layout.Size × Format) := do
  let (a, f) := f.next
  let judged (outside : Bool) (rest : List Char) : Act Format := do
    if !rest.isEmpty then
      Act.complain s!"{a}: not completely converted"
      return { f with status := 1 }
    else if outside then
      Act.complain s!"{a}: Numerical result out of range"
      return { f with status := 1 }
    else return f
  match a.toList with
  | [] | ['\x27'] | ['"'] => return (false, .finite 0 1, f)
  | '\x27' :: c :: _ | '"' :: c :: _ => return (false, .finite c.toNat 1, f)
  | cs =>
    match Numeral.read? cs, undefined? cs with
    | some (negative, n, rest), _ => do
      let (size, outside) := nearest n
      return (negative, size, ← judged outside rest)
    | none, some (negative, rest) => return (negative, .undefined, ← judged false rest)
    | none, none => do
      Act.complain s!"{a}: expected numeric value"
      return (false, .finite 0 1, { f with status := 1 })

def flags : Layout → List Char → Layout × List Char
  | x, [] => (x, [])
  | x, c :: rest =>
    match x.flag? c with
    | some y => flags y rest
    | none => (x, c :: rest)

def count (f : Format) (s : List Char) : Act (Option Int × List Char × Format) := do
  match s with
  | '*' :: rest => do
    let (n, f) ← f.signed
    return (some (Int.bmod n 4294967296), rest, f)
  | _ =>
    let ds := s.takeWhile Char.isDigit
    if ds.isEmpty then return (none, s, f)
    else
      let n := ds.foldl (fun n c => n * 10 + (c.toNat - '0'.toNat)) 0
      return (some (n : Int), s.drop ds.length, f)

def formatEscape? (c : Char) (rest : List Char) : Option (Char × List Char) :=
  if (Echo.octalDigit? c).isSome then Echo.byte? 8 Echo.octalDigit? 3 (c :: rest)
  else Echo.announced? Echo.commonEscapes c rest

def round : (steps : Nat) → List Char → Format → Act (Format × Bool)
  | 0, _, f => return (f, false)
  | _ + 1, [], f => return (f, false)
  | n + 1, '\\' :: c :: rest, f => do
    let (d, rest) := (formatEscape? c rest).getD ('\\', c :: rest)
    Act.say (String.singleton d)
    round n rest f
  | n + 1, '%' :: '%' :: rest, f => do
    Act.say "%"
    round n rest f
  | n + 1, '%' :: directive, f => do
    let (x, rest) := flags Layout.start directive
    let (width?, rest, f) ← count f rest
    let width := width?.getD 0
    let x := { x with width := width.natAbs, left := x.left || decide (width < 0) }
    let (precision?, rest, f) ←
      match rest with
      | '.' :: rest => do
        let (p?, rest, f) ← count f rest
        pure (some ((p?.getD 0).toNat), rest, f)
      | rest => pure (none, rest, f)
    let x := { x with precision? }
    let put (s : String) (rest : List Char) (f : Format) : Act (Format × Bool) := do
      Act.say s
      round n rest f
    match rest with
    | 's' :: rest => do
      let (a, f) := f.next
      put (x.text a) rest f
    | 'c' :: rest => do
      let (a, f) := f.next
      let c := a.toList.headD '\x00'
      put ({ x with precision? := none }.text (String.singleton c)) rest f
    | 'b' :: rest => do
      let (a, f) := f.next
      let (text, cut) := Echo.unescape Echo.commonEscapes a
      Act.say (x.text text)
      if cut then return (f, true) else round n rest f
    | 'd' :: rest | 'i' :: rest => do
      let (v, f) ← f.signed
      put (x.signed v) rest f
    | 'u' :: rest => do
      let (v, f) ← f.unsigned
      put (x.unsigned 10 false v) rest f
    | 'o' :: rest => do
      let (v, f) ← f.unsigned
      put (x.unsigned 8 false v) rest f
    | 'x' :: rest => do
      let (v, f) ← f.unsigned
      put (x.unsigned 16 false v) rest f
    | 'X' :: rest => do
      let (v, f) ← f.unsigned
      put (x.unsigned 16 true v) rest f
    | [] => Act.fail "missing format character"
    | 'a' :: rest | 'A' :: rest | 'e' :: rest | 'E' :: rest | 'f' :: rest | 'F' :: rest
    | 'g' :: rest | 'G' :: rest => do
      let letter := directive.getD (directive.length - rest.length - 1) 'g'
      let (negative, size, f) ← f.real
      put (x.real letter negative size) rest f
    | _ => do
      let read := directive.take (directive.length + 1 - rest.length)
      Act.fail s!"%{String.ofList read}: invalid directive"
  | n + 1, c :: rest, f => do
    let plain := rest.takeWhile fun c => c ≠ '%' && c ≠ '\\'
    Act.say (String.ofList (c :: plain))
    round n (rest.drop plain.length) f

def rounds (format : List Char) : (rounds : Nat) → Format → Act Nat
  | 0, f => return f.status
  | n + 1, f => do
    let (g, cut) ← round (format.length + 1) format { f with used := false }
    if cut || g.args.isEmpty || !g.used then return g.status
    else rounds format n g

def printf : Command := fun args => do
  match ← operands args with
  | [] => Act.fail "usage: printf format [arg ...]"
  | format :: args => rounds format.toList (args.length + 1) ⟨args, false, 0⟩

end SupervisedShell.Script.Builtin
