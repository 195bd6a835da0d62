import Weave.Text.Bytes

/-!
# Signals

A signal has a number and a name. Unless a program has asked for something else, it
ends by a signal, but there are some that do nothing to it.
-/
namespace Weave.Signal

/-- The signals in the order of their numbers, from one on. -/
def names : List String :=
  ["HUP", "INT", "QUIT", "ILL", "TRAP", "ABRT", "BUS", "FPE", "KILL", "USR1", "SEGV", "USR2",
   "PIPE", "ALRM", "TERM", "16", "CHLD", "CONT", "STOP", "TSTP", "TTIN", "TTOU", "URG",
   "XCPU", "XFSZ", "VTALRM", "PROF", "WINCH", "IO", "PWR", "SYS"]

/-- What is said about a program that a signal has ended, where anything is said. -/
def farewells : List (Nat × String) :=
  [(1, "Hangup"), (3, "Quit"), (4, "Illegal instruction"), (5, "Trace/breakpoint trap"),
   (6, "Aborted"), (7, "Bus error"), (8, "Floating point exception"), (9, "Killed"),
   (10, "User defined signal 1"), (11, "Segmentation fault"), (12, "User defined signal 2"),
   (14, "Alarm clock"), (15, "Terminated"), (16, "Stack fault"),
   (24, "CPU time limit exceeded"), (25, "File size limit exceeded"),
   (26, "Virtual timer expired"), (27, "Profiling timer expired"), (29, "I/O possible"),
   (30, "Power failure"), (31, "Bad system call")]

/-- The name of a signal. The end of a program counts as zero. -/
def name (n : Nat) : Bytes :=
  match n with
  | 0 => "EXIT".toList
  | n + 1 => ((names[n]?).map String.toList).getD (Text.ofNat (n + 1))

/-- The signal of a name or a number. Names may be given a longer form. -/
def ofWord? (longer : Bool) (word : Bytes) : Option Nat :=
  if word != [] && word.all Char.isDigit then
    let n := word.foldl (fun n c => 10 * n + (c.toNat - '0'.toNat)) 0
    if n ≤ 64 then some n else none
  else
    let upper := word.map Char.toUpper
    let bare := if longer && Text.beginsWith "SIG".toList upper then upper.drop 3 else upper
    (List.range (names.length + 1)).find? fun n => name n = bare

/-- The signals that do nothing to a program that has not asked for them. -/
def isHarmless (n : Nat) : Bool :=
  [17, 18, 23, 28].contains n

/-- The signal that a program cannot refuse. -/
def kill : Nat := 9

/-- Where a program has ended by a signal, its status tells which. -/
def statusOf (n : Nat) : Nat := 128 + n

example : ["TERM", "sigint", "0", "X"].map (fun t => ofWord? true t.toList) =
    [some 15, some 2, some 0, none] := by decide

end Weave.Signal
