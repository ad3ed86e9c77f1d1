import SupervisedShell.Machine.Files
import SupervisedShell.Text.Octets

set_option autoImplicit false

namespace SupervisedShell

/-- A program of the machine with the arguments that it gets, its own name first. -/
structure Image where
  tool : Tool
  argv : List String
  deriving DecidableEq, Repr

namespace Image

def headSize : Nat := 256

def isBlank (b : UInt8) : Bool := b = 0x20 || b = 0x09

def ends (b : UInt8) : Bool := isBlank b || b = 0

def withoutTrailingBlanks (b : Bytes) : Bytes := (b.reverse.dropWhile isBlank).reverse

/-- The first line behind the two marks. One that is longer than the head is cut, which may only hit
its argument: the name in it has to end within the head. -/
def firstLine? (head : Bytes) : Option Bytes :=
  let untilNul := head.takeWhile (· ≠ 0)
  if untilNul.contains 0x0A then some (untilNul.takeWhile (· ≠ 0x0A))
  else
    let padded := head ++ List.replicate (headSize - 2 - head.length) 0
    if (padded.dropWhile isBlank).any ends then some padded.dropLast else none

def interpreter? (content : Bytes) : Option (Bytes × Option Bytes) :=
  match content.take headSize with
  | 0x23 :: 0x21 :: head =>
    match (firstLine? head).map fun l => (withoutTrailingBlanks l).dropWhile isBlank with
    | none | some [] => none
    | some line =>
      let rest := line.dropWhile (fun b => !ends b)
      let argument := (rest.dropWhile isBlank).takeWhile (· ≠ 0)
      some (line.takeWhile (fun b => !ends b),
        if rest.head?.any isBlank then some argument else none)
  | _ => none

def longestChain : Nat := 6

def load (f : Files) (origin : Place) :
    (files : Nat) → (path : Bytes) → (argv : List String) → Except IoError Image
  | 0, _, _ => .error Errno.tooManyLevels
  | files + 1, path, argv =>
    match f.walk origin path with
    | .error e => .error e
    | .ok (_, n) =>
      match n with
      | .file _ content =>
        if !n.permits .execute then .error Errno.denied
        else
          match content with
          | .tool t => .ok ⟨t, argv⟩
          | .bytes b =>
            match interpreter? (b.extract 0 headSize).toList with
            | none => .error Errno.notExecutable
            | some ([], _) => .error Errno.denied
            | some (program, argument) =>
              load f origin files program
                ((program :: argument.toList ++ [path]).map Octets.ofBytes ++ argv.tail)
      | _ => .error Errno.denied

def fallbackPath : Bytes := Utf8.encode "/bin:/usr/bin"

def passes (e : IoError) : Bool :=
  e = Errno.notFound || e = Errno.notDirectory || e = .system 116 || e = .system 19 ||
    e = .system 110

/-- An image with the path of the file that it came from. -/
structure Found where
  path : Bytes
  image : Image
  deriving DecidableEq, Repr

def loadAt (f : Files) (origin : Place) (argv : List String) (path : Bytes) :
    Except IoError Found :=
  (load f origin longestChain path argv).map fun image => ⟨path, image⟩

def loadOrRead (f : Files) (origin : Place) (argv : List String) (path : Bytes) :
    Except IoError Found :=
  match loadAt f origin argv path with
  | .error e =>
    if e = Errno.notExecutable then
      .ok ⟨path, ⟨.sh, "/bin/sh" :: Octets.ofBytes path :: argv.tail⟩⟩
    else .error e
  | found => found

/-- Tries one candidate after the other. That a file may not be run is told if none can be. -/
def firstOf (attempt : Bytes → Except IoError Found) :
    (candidates : List Bytes) → (denied : Bool) → (last : IoError) → Except IoError Found
  | [], denied, last => .error (if denied then Errno.denied else last)
  | c :: rest, denied, _ =>
    match attempt c with
    | .ok found => .ok found
    | .error e =>
      if e = Errno.denied then firstOf attempt rest true e
      else if passes e then firstOf attempt rest denied e
      else .error e

def candidate (name directory : Bytes) : Bytes :=
  if directory.isEmpty then name else directory ++ [Path.slash] ++ name

def findWith (attempt : Bytes → Except IoError Found) (searchPath? : Option Bytes)
    (program : Bytes) :
    Except IoError Found :=
  if program.isEmpty then .error Errno.notFound
  else if program.contains Path.slash then attempt program
  else
    let directories := Path.directories (searchPath?.getD fallbackPath)
    firstOf attempt (directories.map (candidate program)) false Errno.notFound

def find (f : Files) (origin : Place) (searchPath? : Option Bytes) (program : Bytes)
    (argv : List String) : Except IoError Found :=
  findWith (loadAt f origin argv) searchPath? program

end Image

end SupervisedShell
