import CompilerRunner.CommandLine.Completion
import CompilerRunner.Listing
import CompilerRunner.Pipeline
import CompilerRunner.Settings.Files
import CompilerRunner.Shell.Quoting

/-!
# CommandLine

The program as it is used from a terminal: a command line is read, its command is run, and what
became of it is the exit status.  A failed compilation ends with the code of the tool where that can
be a status of failure, and with one otherwise; any other failure of the tool's own ends with one,
and both are reported.  A crash is left to end the process (`exitStatus`).
-/

namespace CompilerRunner.CommandLine

/-- What a command does, where entry points behave as `launch` says. -/
def Command.executeWith (launch : EntryPoint → Tool) (w : World) : Command → Run Unit
  | .compile options directory => do
    let s ← Run.ofExcept (Settings.load w directory)
    discard (Pipeline.runWith launch options s none)
  | .run target directory => do
    let s ← Run.ofExcept (Settings.load w directory)
    discard (Pipeline.runTargetWith launch target s none)
  | .arguments target directory => do
    let s ← Run.ofExcept (Settings.load w directory)
    let arguments ← Run.ofExcept (s.targetTokens target)
    w.console.print [Shell.joinWords arguments]
  | .targets directory => do
    let s ← Run.ofExcept (Settings.load w directory)
    let lines ← Run.ofExcept (Listing.lines w.console.width s)
    w.console.print lines
  | .completion given => do
    let shell ← Run.ofExcept (chooseShell w given)
    Run.print shell.script

/-- The status of a command line that is not understood. -/
def usageStatus : Nat := 2

/-- The status after a failure. -/
def statusOf : Failure → Nat
  | .compilation (.integer code) _ _ => if 0 < code ∧ code < 256 then code.toNat else 1
  | _ => 1

/-- What kind of failure is reported. -/
def label : Failure → String
  | .settings _ => "SettingsError"
  | .options _ => "InvalidOptionsError"
  | .tool _ => "ToolUnavailableError"
  | .compilation .. => "CompilationFailedError"
  | .timeout _ => "CompilationTimeoutError"
  | .stated _ | .rejected _ | .crash _ => "KonanrunError"

/-- The status of a command that has run, after a report of its failure. -/
def conclude (r : Run Unit) : Run Nat :=
  match r.outcome with
  | .ok _ => ⟨r.events, .ok 0⟩
  | .error f =>
    if f.isReported then
      ⟨r.events ++ [.logged .critical (label f ++ ": " ++ f.message)], .ok (statusOf f)⟩
    else ⟨r.events, .error f⟩

/-- The help text. -/
def help : String :=
  "Usage: " ++ Directories.toolName ++ " COMMAND\n\n" ++
    "Compile Kotlin/Native sources with structured options.\n\nCommands: " ++ commandWords

/-- The version. -/
def version : String := "0.1.0"

/-- The program, run with the words of a command line, where entry points behave as `launch`
says. -/
def runWith (launch : EntryPoint → Tool) (w : World) (words : List String) : Run Nat :=
  match parse words with
  | .ok .help => do
    Run.print help
    return 0
  | .ok .version => do
    Run.print version
    return 0
  | .ok (.command c) => conclude (c.executeWith launch w)
  | .error _ => return usageStatus

/-- The program, run with the words of a command line. -/
def run (w : World) (words : List String) : Run Nat := runWith (EntryPoint.tool w) w words

/-- The status that the process ends with: one, if a failure is left to end it. -/
def exitStatus (r : Run Nat) : Nat :=
  match r.outcome with
  | .ok status => status
  | .error _ => 1

theorem statusOf_bounds (f : Failure) : 1 ≤ statusOf f ∧ statusOf f ≤ 255 := by
  have own (code : Int) : 1 ≤ (if 0 < code ∧ code < 256 then code.toNat else 1) ∧
      (if 0 < code ∧ code < 256 then code.toNat else 1) ≤ 255 := by
    split <;> omega
  have one : 1 ≤ 1 ∧ 1 ≤ 255 := by decide
  cases f with
  | compilation code result written =>
    cases code with
    | integer code => exact own code
    | _ => exact one
  | _ => exact one

end CompilerRunner.CommandLine
