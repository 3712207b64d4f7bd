import BlockSketch.Shell.Bytes

/-!
# BlockSketch.Shell.Signal

Signals: their names and numbers, and what is said of a program that one ended.
-/

namespace BlockSketch.Shell

/-- The names of the signals that have names of their own, from zero, which stands for an exit. -/
def signalNames : List String :=
  ["EXIT", "HUP", "INT", "QUIT", "ILL", "TRAP", "ABRT", "BUS", "FPE", "KILL", "USR1", "SEGV",
   "USR2", "PIPE", "ALRM", "TERM", "16", "CHLD", "CONT", "STOP", "TSTP", "TTIN", "TTOU", "URG",
   "XCPU", "XFSZ", "VTALRM", "PROF", "WINCH", "IO", "PWR", "SYS", "32", "33"]

def signalBound : Nat := 65

def signalName (n : Nat) : Bytes :=
  match signalNames[n]? with
  | some name => bytes name
  | none =>
    if n = 34 then bytes "RTMIN"
    else if n = 64 then bytes "RTMAX"
    else if n < 50 then bytes "RTMIN+" ++ decimalText (n - 34 : Nat)
    else bytes "RTMAX-" ++ decimalText (64 - n : Nat)

/-- The signal of a name or a number; names are looked for from a signal on. -/
def signalOf? (first : Nat) (b : Bytes) : Option Nat :=
  if !b.isEmpty && b.all Char.isDigit then
    let n := digitsValue b
    if n < signalBound then some n else none
  else (List.range signalBound).find? fun n =>
    first ≤ n && signalName n = b.map Char.toUpper

/-- Whether a signal ends a process that has no trap for it. -/
def isDeadly (n : Nat) : Bool := !([0, 17, 18, 19, 20, 21, 22, 23, 28].contains n)

def signalText (n : Nat) : String :=
  match n with
  | 1 => "Hangup"
  | 2 => "Interrupt"
  | 3 => "Quit"
  | 4 => "Illegal instruction"
  | 5 => "Trace/breakpoint trap"
  | 6 => "Aborted"
  | 7 => "Bus error"
  | 8 => "Floating point exception"
  | 9 => "Killed"
  | 10 => "User defined signal 1"
  | 11 => "Segmentation fault"
  | 12 => "User defined signal 2"
  | 13 => "Broken pipe"
  | 14 => "Alarm clock"
  | 15 => "Terminated"
  | 16 => "Stack fault"
  | 24 => "CPU time limit exceeded"
  | 25 => "File size limit exceeded"
  | 26 => "Virtual timer expired"
  | 27 => "Profiling timer expired"
  | 29 => "I/O possible"
  | 30 => "Power failure"
  | 31 => "Bad system call"
  | n => "Real-time signal " ++ toString (n - 34)

/-- What is said when a signal ended a program. -/
def signalRemark? (n : Nat) : Option String :=
  if n = 2 ∨ n = 13 then none else some (signalText n)

end BlockSketch.Shell
