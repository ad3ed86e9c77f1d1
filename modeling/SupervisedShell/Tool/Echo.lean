import SupervisedShell.Tool.Manual

set_option autoImplicit false

namespace SupervisedShell.Program

namespace Echo

/-- What backslashes may announce. -/
structure Escapes where
  plain : List (Char × Char)
  hexadecimal : Bool

def commonEscapes : Escapes :=
  ⟨[('a', '\x07'), ('b', '\x08'), ('e', '\x1b'), ('f', '\x0c'), ('n', '\n'), ('r', '\r'),
    ('t', '\t'), ('v', '\x0b'), ('\\', '\\')], false⟩

def ownEscapes : Escapes := { commonEscapes with hexadecimal := true }

def octalDigit? (c : Char) : Option Nat :=
  if '0' ≤ c ∧ c ≤ '7' then some (c.toNat - '0'.toNat) else none

def hexDigit? (c : Char) : Option Nat :=
  if c.isDigit then some (c.toNat - '0'.toNat)
  else if 'a' ≤ c ∧ c ≤ 'f' then some (c.toNat - 'a'.toNat + 10)
  else if 'A' ≤ c ∧ c ≤ 'F' then some (c.toNat - 'A'.toNat + 10)
  else none

def byte? (base : Nat) (digit? : Char → Option Nat) (most : Nat) (s : List Char) :
    Option (Char × List Char) :=
  let digits := (s.take most).takeWhile fun c => (digit? c).isSome
  if digits.isEmpty then none
  else
    let n := digits.foldl (fun n c => n * base + (digit? c).getD 0) 0
    some (Char.ofNat (n % 256), s.drop digits.length)

/-- The character that is announced by one behind a backslash, and what stands behind. -/
def announced? (x : Escapes) (c : Char) (rest : List Char) : Option (Char × List Char) :=
  match x.plain.find? (·.1 = c) with
  | some (_, d) => some (d, rest)
  | none =>
    if c = '0' then some ((byte? 8 octalDigit? 3 rest).getD ('\x00', rest))
    else if (octalDigit? c).isSome then byte? 8 octalDigit? 3 (c :: rest)
    else if c = 'x' && x.hexadecimal then byte? 16 hexDigit? 2 rest
    else none

def unescapeOnto (x : Escapes) (acc : List Char) :
    (letters : Nat) → List Char → List Char × Bool
  | 0, _ => (acc.reverse, false)
  | _ + 1, [] => (acc.reverse, false)
  | _ + 1, '\\' :: 'c' :: _ => (acc.reverse, true)
  | n + 1, '\\' :: c :: rest =>
    let (d, rest) := (announced? x c rest).getD ('\\', c :: rest)
    unescapeOnto x (d :: acc) n rest
  | n + 1, c :: rest => unescapeOnto x (c :: acc) n rest

/-- The text without the backslashes that announce something. Nothing is printed behind a `\c`; the
flag tells of one. -/
def unescape (x : Escapes) (s : String) : String × Bool :=
  if s.toList.contains '\\' then
    let (letters, cut) := unescapeOnto x [] s.length s.toList
    (String.ofList letters, cut)
  else (s, false)

/-- Whether a line feed is left out, and whether backslashes count. -/
structure Style where
  bare : Bool
  escapes : Bool

def options (s : Style) : List String → Style × List String
  | [] => (s, [])
  | a :: rest =>
    match a.toList with
    | '-' :: c :: cs =>
      if (c :: cs).all ['n', 'e', 'E'].contains then
        let set (s : Style) (c : Char) : Style :=
          if c = 'n' then { s with bare := true } else { s with escapes := c = 'e' }
        options ((c :: cs).foldl set s) rest
      else (s, a :: rest)
    | _ => (s, a :: rest)

end Echo

def echo : Program := fun t =>
  match t.argv.tail with
  | ["--help"] => tellOf "echo" "help" t 0 1
  | ["--version"] => tellOf "echo" "version" t 0 1
  | args =>
    let (style, words) := Echo.options ⟨false, false⟩ args
    let text := " ".intercalate words
    let (text, cut) := if style.escapes then Echo.unescape Echo.ownEscapes text else (text, false)
    deliver t (text ++ if cut || style.bare then "" else "\n") 0 1

end SupervisedShell.Program
