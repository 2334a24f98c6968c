/-!
Signals: their names, what they do to a process that does not ask for them, and what a shell writes
about a command that was killed by one.
-/

namespace DriverValidation.Shell.Signal

/-- The names of the signals, counted from zero on. The first one stands for the end of a shell. -/
def names : List String :=
  ["EXIT", "HUP", "INT", "QUIT", "ILL", "TRAP", "ABRT", "BUS", "FPE", "KILL", "USR1", "SEGV", "USR2",
    "PIPE", "ALRM", "TERM", "STKFLT", "CHLD", "CONT", "STOP", "TSTP", "TTIN", "TTOU", "URG", "XCPU",
    "XFSZ", "VTALRM", "PROF", "WINCH", "IO", "PWR", "SYS"]

/-- The number that no signal reaches. -/
def limit : Nat := 65

/-- The signals that no process can ask for. -/
def unavoidable : List Nat := [9, 19]

/-- The signals that have no effect on a process that does not ask for them. -/
def ignored : List Nat := [17, 18, 23, 28]

/-- The signals that make a process wait. -/
def halting : List Nat := [19, 20, 21, 22]

/-- The signal that a text names by number or by name, from the number `least` on. -/
def ofText? (least : Nat) (s : String) : Option Nat :=
  if s != "" && s.toList.all Char.isDigit then
    match s.toNat? with
    | some n => if n < limit then some n else none
    | none => none
  else
    (names.map String.toList).findIdx? (· == s.toList.map Char.toUpper) |>.filter (least ≤ ·)

/-- What is written about a command that was killed. -/
def obituary (signal : Nat) : Option String :=
  match signal with
  | 1 => some "Hangup"
  | 3 => some "Quit"
  | 4 => some "Illegal instruction"
  | 5 => some "Trace/breakpoint trap"
  | 6 => some "Aborted"
  | 7 => some "Bus error"
  | 8 => some "Floating point exception"
  | 9 => some "Killed"
  | 10 => some "User defined signal 1"
  | 11 => some "Segmentation fault"
  | 12 => some "User defined signal 2"
  | 14 => some "Alarm clock"
  | 15 => some "Terminated"
  | 16 => some "Stack fault"
  | 24 => some "CPU time limit exceeded"
  | 25 => some "File size limit exceeded"
  | 26 => some "Virtual timer expired"
  | 27 => some "Profiling timer expired"
  | 29 => some "I/O possible"
  | 30 => some "Power failure"
  | 31 => some "Bad system call"
  | _ => none

end DriverValidation.Shell.Signal
