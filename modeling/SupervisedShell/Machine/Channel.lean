import SupervisedShell.Machine.Files

set_option autoImplicit false

namespace SupervisedShell

/-- What the processes share with the one that started them. -/
inductive Stream where
  | output
  | errors
  deriving DecidableEq, Repr

inductive Channel where
  | stream (s : Stream)
  | device (d : Device)
  | directory (p : Place)
  | file (p : Place) (offset : Nat) (appends : Bool)
  | pipe (id : Nat)
  deriving DecidableEq, Repr

/-- A channel as it was opened. Processes share it with its position. -/
structure Opening where
  channel : Channel
  reads : Bool
  writes : Bool
  deriving DecidableEq, Repr

/-- Bytes that were written, of which the first ones were read. -/
structure Page where
  bytes : ByteArray
  taken : Nat

namespace Page

def size : Nat := 4096

def room (p : Page) : Nat := size - p.bytes.size

end Page

/-- The pages of a pipe, the oldest one first. -/
structure Pipe where
  pages : List Page

namespace Pipe

def empty : Pipe := ⟨[]⟩

def mostPages : Nat := 16

def isEmpty (p : Pipe) : Bool := p.pages.isEmpty

def extendLast (b : ByteArray) : List Page → Option (List Page)
  | [] => none
  | [p] => if b.size ≤ p.room then some [{ p with bytes := p.bytes ++ b }] else none
  | p :: rest => (extendLast b rest).map (p :: ·)

def fill (b : ByteArray) : (pages : Nat) → (start : Nat) → List Page × Nat
  | 0, start => ([], b.size - start)
  | n + 1, start =>
    if b.size ≤ start then ([], 0)
    else
      let (rest, left) := fill b n (start + Page.size)
      (⟨b.extract start (start + Page.size), 0⟩ :: rest, left)

/-- Writes as much as there is room for, and tells how many bytes are left. What does not fill whole
pages goes on the last page if that has room for it. -/
def push (b : ByteArray) (p : Pipe) : Pipe × Nat :=
  let odd := b.size % Page.size
  let (pages, start) :=
    match if odd = 0 then none else extendLast (b.extract 0 odd) p.pages with
    | some pages => (pages, odd)
    | none => (p.pages, 0)
  let (fresh, left) := fill b (mostPages - pages.length) start
  (⟨pages ++ fresh⟩, left)

def pull (most : Nat) : List Page → ByteArray × List Page
  | [] => (.empty, [])
  | p :: rest =>
    let there := p.bytes.size - p.taken
    if most < there then
      (p.bytes.extract p.taken (p.taken + most), { p with taken := p.taken + most } :: rest)
    else
      let (b, left) := pull (most - there) rest
      (p.bytes.extract p.taken p.bytes.size ++ b, left)

def available (p : Pipe) : Nat := p.pages.foldl (fun n q => n + (q.bytes.size - q.taken)) 0

def lineEnd (b : ByteArray) : (bytes : Nat) → (start : Nat) → Nat
  | 0, start => start
  | n + 1, start => if b[start]? = some 0x0A then start + 1 else lineEnd b n (start + 1)

def lineLength : List Page → Nat
  | [] => 0
  | p :: rest =>
    let e := lineEnd p.bytes (p.bytes.size - p.taken) p.taken
    if p.taken < e && p.bytes[e - 1]? = some 0x0A then e - p.taken
    else p.bytes.size - p.taken + lineLength rest

end Pipe

end SupervisedShell
