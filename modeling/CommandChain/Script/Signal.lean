import CommandChain.Text.Radix

/-!
# Signals

The signals that a process can be sent, by name and number, and what they do to it.
-/

namespace CommandChain

namespace Script

namespace Signal

/-- The signal numbers with a name of their own, and what is said of a process that one ended. -/
def named : List (Nat × String × String) :=
  [(1, "HUP", "Hangup"), (2, "INT", "Interrupt"), (3, "QUIT", "Quit"),
    (4, "ILL", "Illegal instruction"), (5, "TRAP", "Trace/breakpoint trap"),
    (6, "ABRT", "Aborted"), (7, "BUS", "Bus error"), (8, "FPE", "Floating point exception"),
    (9, "KILL", "Killed"), (10, "USR1", "User defined signal 1"),
    (11, "SEGV", "Segmentation fault"), (12, "USR2", "User defined signal 2"),
    (13, "PIPE", "Broken pipe"), (14, "ALRM", "Alarm clock"), (15, "TERM", "Terminated"),
    (16, "16", "Stack fault"), (17, "CHLD", "Child exited"), (18, "CONT", "Continued"),
    (19, "STOP", "Stopped (signal)"), (20, "TSTP", "Stopped"), (21, "TTIN", "Stopped (tty input)"),
    (22, "TTOU", "Stopped (tty output)"), (23, "URG", "Urgent I/O condition"),
    (24, "XCPU", "CPU time limit exceeded"), (25, "XFSZ", "File size limit exceeded"),
    (26, "VTALRM", "Virtual timer expired"), (27, "PROF", "Profiling timer expired"),
    (28, "WINCH", "Window changed"), (29, "IO", "I/O possible"),
    (30, "PWR", "Power failure"), (31, "SYS", "Bad system call"), (32, "32", "Unknown signal 32"),
    (33, "33", "Unknown signal 33")]

/-- The first of the signals that are only counted. -/
def firstCounted : Nat :=
  34

/-- The last signal. -/
def last : Nat :=
  64

/-- The number that stands for the end of a process where a signal is expected. -/
def exit : Nat :=
  0

/-- The signal sent where none is named. -/
def terminate : Nat :=
  15

/-- The signals that do not end a process, among them zero, which only asks whether it exists. -/
def harmless : List Nat :=
  [0, 17, 18, 19, 20, 21, 22, 23, 28]

/-- The signals that a process cannot take in any other way. -/
def irresistible : List Nat :=
  [9, 19]

/-- The signals after which nothing is said of a process that they ended. -/
def silent : List Nat :=
  [2, 13]

/-- The name of a signal that is only counted, from the nearer end of their range. -/
def countedName (number : Nat) : Text :=
  if number = firstCounted then Text.ofString "RTMIN"
  else if number = last then Text.ofString "RTMAX"
  else if number < firstCounted + 16 then
    Text.ofString "RTMIN+" ++ Text.ofInt (number - firstCounted)
  else Text.ofString "RTMAX-" ++ Text.ofInt (last - number)

/-- The name of a signal. -/
def name (number : Nat) : Text :=
  if number = exit then Text.ofString "EXIT"
  else
    match named.lookup number with
    | some entry => Text.ofString entry.1
    | none => countedName number

/-- What is said of a process that a signal ended. -/
def description (number : Nat) : Text :=
  match named.lookup number with
  | some entry => Text.ofString entry.2
  | none => Text.ofString "Real-time signal " ++ Text.ofInt (number - firstCounted)

/-- The numbers of all signals. -/
def all : List Nat :=
  (List.range last).map (· + 1)

/-- Letters in one case. -/
def folded (text : Text) : Text :=
  text.map fun
    | .char character => .char character.toUpper
    | symbol => symbol

/-- The number of a signal that is given by its number or by its name in letters of any case, if it
is at least the given one. -/
def ofText? (least : Nat) (text : Text) : Option Nat :=
  match text.toDecimal? with
  | some number => if least ≤ number ∧ number ≤ last then some number else none
  | none =>
      ((if least = 0 then [exit] else []) ++ all).find? fun number => folded text == name number

end Signal

end Script

end CommandChain
