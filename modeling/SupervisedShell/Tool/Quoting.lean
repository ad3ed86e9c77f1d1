
set_option autoImplicit false

namespace SupervisedShell.Program.Quoting

def isPrintable (c : Char) : Bool := ' ' ≤ c && c ≤ '~'

def letters : List (Char × String) :=
  [('\x07', "a"), ('\x08', "b"), ('\x0c', "f"), ('\n', "n"), ('\r', "r"), ('\t', "t"),
    ('\x0b', "v")]

/-- What stands behind the backslash for a character that cannot be printed: a letter, or three
octal digits. -/
def escape (c : Char) : String :=
  match letters.find? (·.1 = c) with
  | some (_, letter) => letter
  | none =>
    let n := c.toNat
    String.ofList (Nat.toDigits 8 (n / 64 % 4) ++ Nat.toDigits 8 (n / 8 % 8) ++
      Nat.toDigits 8 (n % 8))

def quoted (s : String) : String :=
  let one (c : Char) : String :=
    if c = '\x27' || c = '\\' then "\\" ++ String.singleton c
    else if isPrintable c then String.singleton c
    else "\\" ++ escape c
  "'" ++ String.join (s.toList.map one) ++ "'"

def isSpecial (c : Char) : Bool :=
  [' ', '!', '"', '$', '&', '\x27', '(', ')', '*', ':', ';', '<', '=', '>', '?',
  '[', '\\', '^', '\x60', '|'].contains c

def isSpecialInFront (c : Char) : Bool := c = '#' || c = '~'

def needsQuotes (s : String) : Bool :=
  match s.toList with
  | [] => true
  | [c] => c = '\x7b' || c = '\x7d' || isSpecialInFront c || isSpecial c || !isPrintable c
  | c :: cs => isSpecialInFront c || (c :: cs).any fun c => isSpecial c || !isPrintable c

def isTame (c : Char) : Bool :=
  c.isAlphanum || [' ', '%', '\x27', '+', ',', '-', '.', '/', ':', ']', '_'].contains c

def fitsDouble (s : String) : Bool :=
  s.toList.contains '\x27' && (s.toList.head?.any isSpecialInFront || s.toList.head?.any isTame) &&
    s.toList.tail.all isTame

/-- The characters between single quotes, which are left for escapes. The flag tells that the last
one was an escape. -/
def between (escaped : Bool) : List Char → String
  | [] => ""
  | c :: rest =>
    if c = '\x27' then "'\\''" ++ between false rest
    else if isPrintable c then
      (if escaped then "''" else "") ++ String.singleton c ++ between false rest
    else (if escaped then "" else "'$'") ++ "\\" ++ escape c ++ between true rest

def typed (s : String) : String :=
  if !needsQuotes s then s
  else if fitsDouble s then "\"" ++ s ++ "\""
  else "'" ++ between false s.toList ++ "'"

end SupervisedShell.Program.Quoting
