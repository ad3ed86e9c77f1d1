/-!
How a child ended, as the system tells its parent.
-/

set_option autoImplicit false

namespace SupervisedShell

namespace Signal

def arithmetic : Nat := 8

def kill : Nat := 9

def memory : Nat := 11

def terminate : Nat := 15

def names : List String :=
  ["HUP", "INT", "QUIT", "ILL", "TRAP", "ABRT", "BUS", "FPE", "KILL", "USR1", "SEGV",
    "USR2", "PIPE",
   "ALRM", "TERM", "STKFLT", "CHLD", "CONT", "STOP", "TSTP", "TTIN", "TTOU", "URG", "XCPU", "XFSZ",
   "VTALRM", "PROF", "WINCH", "IO", "PWR", "SYS"]

def name? (signal : Nat) : Option String :=
  match signal with
  | 0 => none
  | n + 1 => names[n]?

def descriptions : List String :=
  ["Hangup", "Interrupt", "Quit", "Illegal instruction", "Trace/breakpoint trap", "Aborted",
   "Bus error", "Floating point exception", "Killed", "User defined signal 1", "Segmentation fault",
   "User defined signal 2", "Broken pipe", "Alarm clock", "Terminated", "Stack fault",
     "Child exited",
   "Continued", "Stopped (signal)", "Stopped", "Stopped (tty input)", "Stopped (tty output)",
   "Urgent I/O condition", "CPU time limit exceeded", "File size limit exceeded",
   "Virtual timer expired", "Profiling timer expired", "Window changed", "I/O possible",
   "Power failure", "Bad system call"]

/-- The first of the signals that programs may use as they like. -/
def firstFree : Nat := 34

def last : Nat := 64

def description (signal : Nat) : String :=
  if signal = 0 then "Unknown signal 0"
  else
    match descriptions[signal - 1]? with
    | some d => d
    | none =>
      if firstFree ≤ signal ∧ signal ≤ last then s!"Real-time signal {signal - firstFree}"
      else s!"Unknown signal {signal}"

def text (signal : Nat) : String :=
  match name? signal with
  | some n => s!"{signal} (SIG{n})"
  | none => s!"{signal}"

end Signal

inductive WaitStatus where
  | exited (code : Nat)
  | signaled (signal : Nat) (dumped : Bool)
  | stopped (signal : Nat)
  | continued
  deriving DecidableEq, Repr

def WaitStatus.text : WaitStatus → String
  | .exited code => s!"exit status: {code}"
  | .signaled signal dumped =>
    s!"signal: {Signal.text signal}" ++ if dumped then " (core dumped)" else ""
  | .stopped signal => s!"stopped (not terminated) by signal: {Signal.text signal}"
  | .continued => "continued (WIFCONTINUED)"

end SupervisedShell
