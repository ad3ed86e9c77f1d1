import SupervisedShell.Time

set_option autoImplicit false

namespace SupervisedShell

structure Limits where
  timeout : Duration
  pollInterval : Duration
  deriving DecidableEq, Repr

namespace Limits

def standardTimeout : Duration := .ofSecs 5

def standardPollInterval : Duration := .ofMillis 100

def standard : Limits := ⟨standardTimeout, standardPollInterval⟩

def deadline (l : Limits) (t : Instant) : Instant := t.after l.timeout

def deadline? (l : Limits) (t : Instant) : Option Instant := t.after? l.timeout

theorem deadline?_eq (l : Limits) (t : Instant) :
    l.deadline? t =
      if (l.deadline t).secs < 0x8000000000000000 then some (l.deadline t) else none :=
  t.after?_eq l.timeout

def pause (l : Limits) (started now : Instant) : Duration :=
  l.pollInterval.shorter ((l.deadline started).since now)

end Limits

end SupervisedShell
