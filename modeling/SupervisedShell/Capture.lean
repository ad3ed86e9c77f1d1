import SupervisedShell.System.Printing

set_option autoImplicit false

namespace SupervisedShell

structure Capture where
  bytes : Bytes
  deriving DecidableEq, Repr

namespace Capture

def empty : Capture := ⟨[]⟩

def write (chunk : Bytes) (c : Capture) : Nat × Capture := (chunk.length, ⟨c.bytes ++ chunk⟩)

def contents (c : Capture) : String := Utf8.lossy c.bytes

def outlet : Outlet Capture where
  write chunk c := (.ok (c.write chunk).1, (c.write chunk).2)
  flush c := (.ok (), c)

end Capture

structure Faulty where
  capture : Capture
  bound : Nat
  refusals : Nat
  flushRefusals : Nat
  deriving DecidableEq, Repr

namespace Faulty

def full : IoError := .device "writer is full"

def flushRefused : IoError := .device "flush refused"

/-- Takes what fits below the bound. With no refusal left there is no bound. -/
def write (chunk : Bytes) (w : Faulty) : Except IoError Nat × Faulty :=
  if w.refusals = 0 then
    let (n, c) := w.capture.write chunk
    (.ok n, { w with capture := c })
  else
    let room := w.bound - w.capture.bytes.length
    if room = 0 then (.error full, { w with refusals := w.refusals - 1 })
    else
      let (n, c) := w.capture.write (chunk.take room)
      (.ok n, { w with capture := c })

def flush (w : Faulty) : Except IoError Unit × Faulty :=
  if w.flushRefusals = 0 then (.ok (), w)
  else (.error flushRefused, { w with flushRefusals := w.flushRefusals - 1 })

def outlet : Outlet Faulty := ⟨write, flush⟩

end Faulty

end SupervisedShell
