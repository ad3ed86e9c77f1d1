import SupervisedShell.Number.Shortest
/-!
Lengths of time and points in time, in whole nanoseconds.
-/

set_option autoImplicit false

namespace SupervisedShell

def nanosPerSecond : Nat := 1000000000

def nanosPerMilli : Nat := 1000000

def nanosPerMicro : Nat := 1000

structure Duration where
  nanos : Nat
  deriving DecidableEq, Repr

namespace Duration

def ofSecs (n : Nat) : Duration := ⟨n * nanosPerSecond⟩

def ofMillis (n : Nat) : Duration := ⟨n * nanosPerMilli⟩

def ofMicros (n : Nat) : Duration := ⟨n * nanosPerMicro⟩

def ofParts (secs nanos : Nat) : Duration := ⟨secs * nanosPerSecond + nanos⟩

def secs (d : Duration) : Nat := d.nanos / nanosPerSecond

def subsecNanos (d : Duration) : Nat := d.nanos % nanosPerSecond

def millis (d : Duration) : Nat := d.nanos / nanosPerMilli

def shorter (d e : Duration) : Duration := ⟨min d.nanos e.nanos⟩

def longer (d e : Duration) : Duration := ⟨max d.nanos e.nanos⟩

/-- The seconds as a number of 53 bits. The whole seconds and the rest are rounded on their own
before they are added. -/
def inSeconds (d : Duration) : Binary :=
  (Binary.ofQuotient d.secs 1).add (Binary.ofQuotient d.subsecNanos (nanosPerSecond))

def secondsText (d : Duration) : String := d.inSeconds.text

def secondsPieces (d : Duration) : List String := d.inSeconds.pieces

theorem join_secondsPieces (d : Duration) : String.join d.secondsPieces = d.secondsText :=
  Decimal.join_pointedPieces _ _

def text (d : Duration) : String :=
  if nanosPerSecond ≤ d.nanos then Decimal.pointed d.nanos 9 ++ "s"
  else if nanosPerMilli ≤ d.nanos then Decimal.pointed d.nanos 6 ++ "ms"
  else if nanosPerMicro ≤ d.nanos then Decimal.pointed d.nanos 3 ++ "µs"
  else Decimal.pointed d.nanos 0 ++ "ns"

end Duration

/-- A reading of a clock, counted from a fixed moment. -/
structure Instant where
  nanos : Nat
  deriving DecidableEq, Repr

namespace Instant

def after (t : Instant) (d : Duration) : Instant := ⟨t.nanos + d.nanos⟩

def seconds (n : Nat) : Option Nat := if n < 0x8000000000000000 then some n else none

/-- Whole seconds are added first, and one more where the rests make up a second. Nothing comes of
seconds that their word does not hold. -/
def after? (t : Instant) (d : Duration) : Option Instant := do
  let secs ← seconds (t.nanos / nanosPerSecond + d.secs)
  let rest := t.nanos % nanosPerSecond + d.subsecNanos
  if rest < nanosPerSecond then
    return ⟨secs * nanosPerSecond + rest⟩
  else
    let secs ← seconds (secs + 1)
    return ⟨secs * nanosPerSecond + (rest - nanosPerSecond)⟩

def since (t start : Instant) : Duration := ⟨t.nanos - start.nanos⟩

def secs (t : Instant) : Nat := t.nanos / nanosPerSecond

theorem seconds_of_lt {n : Nat} (fits : n < 0x8000000000000000) : seconds n = some n := if_pos fits

theorem seconds_of_not_lt {n : Nat} (beyond : ¬ n < 0x8000000000000000) :
    seconds n = none := if_neg beyond

theorem secs_of_nanos {t : Instant} {q rest : Nat} (sum : t.nanos = q * nanosPerSecond + rest)
    (short : rest < nanosPerSecond) : t.secs = q := by
  simp only [secs, nanosPerSecond] at *
  omega

/-- A moment is kept exactly if its seconds are, whichever way they were added up. -/
theorem after?_eq (t : Instant) (d : Duration) :
    t.after? d = if (t.after d).secs < 0x8000000000000000 then some (t.after d) else none := by
  have sum : (t.after d).nanos =
      (t.secs + d.secs) * nanosPerSecond + (t.nanos % nanosPerSecond + d.subsecNanos) := by
    simp only [after, secs, Duration.secs, Duration.subsecNanos, nanosPerSecond]
    omega
  have rests : t.nanos % nanosPerSecond + d.subsecNanos < 2 * nanosPerSecond := by
    simp only [Duration.subsecNanos, nanosPerSecond]
    omega
  change (seconds (t.secs + d.secs)).bind _ = _
  generalize t.after d = u at sum ⊢
  generalize t.secs + d.secs = q at sum ⊢
  generalize t.nanos % nanosPerSecond + d.subsecNanos = rest at sum rests ⊢
  by_cases whole : rest < nanosPerSecond
  · rw [secs_of_nanos sum whole]
    by_cases fits : q < 0x8000000000000000
    · rw [seconds_of_lt fits, Option.bind_some, if_pos whole, if_pos fits, ← sum]
      rfl
    · rw [seconds_of_not_lt fits, Option.bind_none, if_neg fits]
  · have carried : u.nanos = (q + 1) * nanosPerSecond + (rest - nanosPerSecond) := by
      rw [sum, Nat.add_one_mul]
      omega
    rw [secs_of_nanos carried (by omega)]
    by_cases fits : q + 1 < 0x8000000000000000
    · rw [seconds_of_lt (Nat.lt_of_succ_lt fits), Option.bind_some, if_neg whole,
        seconds_of_lt fits, if_pos fits, Option.bind_eq_bind, Option.bind_some, ← carried]
      rfl
    · rw [if_neg fits]
      by_cases first : q < 0x8000000000000000
      · rw [seconds_of_lt first, Option.bind_some, if_neg whole, seconds_of_not_lt fits]
        rfl
      · rw [seconds_of_not_lt first, Option.bind_none]

end Instant

end SupervisedShell
