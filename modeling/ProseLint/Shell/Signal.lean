/-
Signals by their numbers and names.
-/
import ProseLint.Shell.Tree
import ProseLint.Text.Digits

namespace ProseLint.Shell.Signal

/-- The names of signals, in the order of their numbers; the first is the end of a shell. -/
def names : List String :=
  ["EXIT", "HUP", "INT", "QUIT", "ILL", "TRAP", "ABRT", "BUS", "FPE", "KILL", "USR1", "SEGV", "USR2",
    "PIPE", "ALRM", "TERM", "16", "CHLD", "CONT", "STOP", "TSTP", "TTIN", "TTOU", "URG", "XCPU",
    "XFSZ", "VTALRM", "PROF", "WINCH", "IO", "PWR", "SYS"]

/-- How many signals there are, with those that have no name of their own. -/
def count : Nat := 65

def name (signal : Nat) : String :=
  match names[signal]? with
  | some n => n
  | none =>
    if signal ≤ 33 then toString signal
    else if signal = 34 then "RTMIN"
    else if signal < 50 then "RTMIN+" ++ toString (signal - 34)
    else if signal < 64 then "RTMAX-" ++ toString (64 - signal)
    else "RTMAX"

/-- The signal of a number or a name in either case. -/
def ofText? (cs : Bytes) : Option Nat :=
  if !cs.isEmpty ∧ cs.all Text.isDigit then
    let n := Text.natOfDigits 10 cs
    if n < count then some n else none
  else
    let upper := String.ofList (cs.map Char.toUpper)
    (List.range count).find? (name · = upper)

/-- What is said about a program that a signal ended; nothing about an interrupt or a closed pipe. -/
def epitaph? (signal : Nat) : Option String :=
  match name signal with
  | "INT" | "PIPE" => none
  | "HUP" => some "Hangup"
  | "QUIT" => some "Quit"
  | "ILL" => some "Illegal instruction"
  | "TRAP" => some "Trace/breakpoint trap"
  | "ABRT" => some "Aborted"
  | "BUS" => some "Bus error"
  | "FPE" => some "Floating point exception"
  | "KILL" => some "Killed"
  | "USR1" => some "User defined signal 1"
  | "SEGV" => some "Segmentation fault"
  | "USR2" => some "User defined signal 2"
  | "ALRM" => some "Alarm clock"
  | "TERM" => some "Terminated"
  | "16" => some "Stack fault"
  | "XCPU" => some "CPU time limit exceeded"
  | "XFSZ" => some "File size limit exceeded"
  | "VTALRM" => some "Virtual timer expired"
  | "PROF" => some "Profiling timer expired"
  | "IO" => some "I/O possible"
  | "PWR" => some "Power failure"
  | "SYS" => some "Bad system call"
  | n => some ("Real-time signal " ++ n)

/-- Whether a signal that is not caught is passed over. -/
def isIgnored (signal : Nat) : Bool := ["CHLD", "CONT", "URG", "WINCH"].contains (name signal)

/-- Whether a signal that is not caught stops a program for good. -/
def isStopping (signal : Nat) : Bool := ["STOP", "TSTP", "TTIN", "TTOU"].contains (name signal)

end ProseLint.Shell.Signal
