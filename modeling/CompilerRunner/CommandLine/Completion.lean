import CompilerRunner.CommandLine.Command
import CompilerRunner.Directories

/-!
# CommandLine — Completion

Scripts that complete the program's commands in a terminal, and the choice of the shell to write one
for.
-/

namespace CompilerRunner.CommandLine

/-- The name of the shell that the environment tells of. -/
def environmentShell (w : World) : String :=
  (Path.ofText ((w.environment.get? "SHELL").getD "")).name

/-- The shell to generate completion for: the one that is given, else the one in use. -/
def chooseShell (w : World) (given : Option TerminalShell) : Except Failure TerminalShell :=
  match given with
  | some s => .ok s
  | none =>
    let detected := environmentShell w
    match TerminalShell.choices.lookup detected with
    | some s => .ok s
    | none =>
      .error (.stated ("cannot generate completion for shell " ++
        Text.quoted (if detected = "" then "(unset)" else detected) ++ ", pass one of " ++
        String.intercalate ", " (TerminalShell.choices.map Prod.fst)))

/-- The names of the commands with spaces between them. -/
def commandWords : String := String.intercalate " " (commandNames.map Prod.fst)

/-- A script that completes the names of commands. -/
def TerminalShell.script : TerminalShell → String
  | .zsh => "#compdef " ++ Directories.toolName ++ "\ncompadd " ++ commandWords
  | .bash => "complete -W '" ++ commandWords ++ "' " ++ Directories.toolName
  | .fish => "complete -c " ++ Directories.toolName ++ " -f -a '" ++ commandWords ++ "'"

end CompilerRunner.CommandLine
