import Greenlight.Decimal.Reader
import Greenlight.Entries

/-! # Signals

What processes send each other, by name and by number, and what the shell writes about a process that
one has ended. -/

namespace Greenlight.Host.Signal

/-- Signals by name. -/
def named : List (String × Nat) := [
  ("HUP", 1), ("INT", 2), ("QUIT", 3), ("ILL", 4), ("TRAP", 5), ("ABRT", 6), ("BUS", 7), ("FPE", 8),
  ("KILL", 9), ("USR1", 10), ("SEGV", 11), ("USR2", 12), ("PIPE", 13), ("ALRM", 14), ("TERM", 15),
  ("CHLD", 17), ("CONT", 18), ("STOP", 19), ("TSTP", 20), ("TTIN", 21), ("TTOU", 22), ("URG", 23),
  ("XCPU", 24), ("XFSZ", 25), ("VTALRM", 26), ("PROF", 27), ("WINCH", 28), ("IO", 29), ("PWR", 30),
  ("SYS", 31), ("RTMIN", 34), ("RTMAX", 64)]

/-- The name of a signal; signals between two with a name are counted from the nearer one. -/
def name? (signal : Nat) : Option String :=
  match named.find? (·.2 == signal) with
  | some (name, _) => some name
  | none =>
    if 34 < signal ∧ signal < 50 then some s!"RTMIN+{signal - 34}"
    else if 50 ≤ signal ∧ signal < 64 then some s!"RTMAX-{64 - signal}"
    else none

/-- A signal as it is listed. -/
def shown (signal : Nat) : String := (name? signal).getD (Nat.repr signal)

/-- All signals as they are listed. -/
def listing : List String := (List.range 65).map shown

/-- The number of a signal given by name or number. -/
def number? (s : String) : Option Nat :=
  match Decimal.readPlainDigits? 10 s.toList with
  | some n => some n
  | none =>
    let name := s.toList.map Char.toUpper
    Entries.get? named (String.ofList (if "SIG".toList.isPrefixOf name then name.drop 3 else name))

/-- The name under which a trap is kept: that of a signal, or the word for the end of the shell. -/
def trapName? (s : String) : Option String :=
  if s = "EXIT" ∨ s = "0" then some "EXIT" else (number? s).bind name?

/-- What the shell writes about a process that a signal ended. -/
def words (signal : Nat) : String :=
  match signal with
  | 2 | 13 => ""
  | 1 => "Hangup\n"
  | 3 => "Quit\n"
  | 4 => "Illegal instruction\n"
  | 5 => "Trace/breakpoint trap\n"
  | 6 => "Aborted\n"
  | 7 => "Bus error\n"
  | 8 => "Floating point exception\n"
  | 9 => "Killed\n"
  | 10 => "User defined signal 1\n"
  | 11 => "Segmentation fault\n"
  | 12 => "User defined signal 2\n"
  | 14 => "Alarm clock\n"
  | 15 => "Terminated\n"
  | 16 => "Stack fault\n"
  | 24 => "CPU time limit exceeded\n"
  | 25 => "File size limit exceeded\n"
  | 26 => "Virtual timer expired\n"
  | 27 => "Profiling timer expired\n"
  | 29 => "I/O possible\n"
  | 30 => "Power failure\n"
  | 31 => "Bad system call\n"
  | n => if 34 ≤ n then s!"Real-time signal {n - 34}\n" else s!"Unknown signal {n}\n"

/-- Signals that change nothing. -/
def isHarmless (signal : Nat) : Bool := [0, 17, 18, 23, 28].contains signal

/-- Signals that stop a process for good. -/
def isHalting (signal : Nat) : Bool := [19, 20, 21, 22].contains signal

end Greenlight.Host.Signal
