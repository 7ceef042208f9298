import CompilerRunner.Decimal.Reading

/-!
# Shell — Signal

The signals of a system by name and number, and what is said of a process that one has ended.
-/

namespace CompilerRunner.Shell.Signal

/-- The signals by number, from one on. -/
def names : List String :=
  ["HUP", "INT", "QUIT", "ILL", "TRAP", "ABRT", "BUS", "FPE", "KILL", "USR1", "SEGV", "USR2",
    "PIPE", "ALRM", "TERM", "STKFLT", "CHLD", "CONT", "STOP", "TSTP", "TTIN", "TTOU", "URG",
    "XCPU", "XFSZ", "VTALRM", "PROF", "WINCH", "IO", "PWR", "SYS"]

/-- The name of a signal; that of number zero is the one of the end of a shell. -/
def name? (n : Nat) : Option String := if n = 0 then some "EXIT" else names[n - 1]?

/-- The number of a signal, given by name or number. -/
def number? (w : String) : Option Nat :=
  match Decimal.readWhole? 10 w.toList with
  | some n => if n ≤ 64 then some n else none
  | none =>
    let w := String.ofList (w.toList.map Char.toUpper)
    if w = "EXIT" then some 0 else (names.findIdx? (· = w)).map (· + 1)

/-- The signals that end no process. -/
def harmless : List Nat := [17, 18, 23, 28]

/-- What is said of a process that a signal has ended; of some nothing is said. -/
def epitaph? (n : Nat) : Option String :=
  if n = 2 ∨ n = 13 then none
  else
    some <| (List.lookup n
      [(1, "Hangup"), (3, "Quit"), (4, "Illegal instruction"), (5, "Trace/breakpoint trap"),
        (6, "Aborted"), (7, "Bus error"), (8, "Floating point exception"), (9, "Killed"),
        (10, "User defined signal 1"), (11, "Segmentation fault"), (12, "User defined signal 2"),
        (14, "Alarm clock"), (15, "Terminated"), (16, "Stack fault"),
        (24, "CPU time limit exceeded"), (25, "File size limit exceeded"),
        (26, "Virtual timer expired"), (27, "Profiling timer expired"), (29, "I/O possible"),
        (30, "Power failure"), (31, "Bad system call")]).getD ("Signal " ++ toString n)

end CompilerRunner.Shell.Signal
