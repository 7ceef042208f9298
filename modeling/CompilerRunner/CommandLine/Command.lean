import CompilerRunner.CommandLine.Binding
import CompilerRunner.Options
import CompilerRunner.Path

/-!
# CommandLine — Command

The commands, and how a command line is read as one.  Help can be asked for anywhere before the
delimiter; it is refused only where the first word beside that is neither a command nor an option.
The version can be asked for in the same places, and is never refused.
-/

namespace CompilerRunner.CommandLine

/-- The shells that completion can be generated for. -/
inductive TerminalShell where
  | zsh
  | bash
  | fish
deriving DecidableEq

/-- The name of a shell. -/
def TerminalShell.name : TerminalShell → String
  | .zsh => "zsh"
  | .bash => "bash"
  | .fish => "fish"

/-- The shells by name. -/
def TerminalShell.choices : List (String × TerminalShell) :=
  [TerminalShell.zsh, .bash, .fish].map fun s => (s.name, s)

/-- What the program is asked to do.  Settings are those of `directory`. -/
inductive Command where
  | compile (options : CompileOptions) (directory : Path)
  | run (target : String) (directory : Path)
  | arguments (target : String) (directory : Path)
  | targets (directory : Path)
  | completion (shell : Option TerminalShell)
deriving DecidableEq

/-- The commands' names. -/
inductive CommandName where
  | compile
  | run
  | arguments
  | targets
  | completion
deriving DecidableEq

/-- The commands by name. -/
def commandNames : List (String × CommandName) :=
  [("compile", .compile), ("run", .run), ("args", .arguments), ("targets", .targets),
    ("generate-completion", .completion)]

/-- The option for the directory that settings are loaded for. -/
def workdir : Parameter := ⟨"workdir", .single⟩

/-- The options of a command. -/
def CommandName.parameters : CommandName → List Parameter
  | .compile =>
    [⟨"output", .single⟩, ⟨"memory-model", .single⟩, ⟨"verbose", .flag⟩, ⟨"nomain", .flag⟩,
      ⟨"output-kind", .single⟩, ⟨"debug", .flag⟩, ⟨"extra", .repeatable⟩, workdir]
  | .run | .arguments | .targets => [workdir]
  | .completion => []

/-- The directory that is given, by default the one the program runs in. -/
def Bindings.directory (b : Bindings) : Path := Path.ofText ((b.text? workdir.name).getD "")

/-- No argument. -/
def noArgument : List String → Except UsageFault Unit
  | [] => .ok ()
  | w :: _ => .error (.unexpected w)

/-- The only argument. -/
def onlyArgument (name : String) : List String → Except UsageFault String
  | [] => .error (.missing name)
  | [w] => .ok w
  | _ :: w :: _ => .error (.unexpected w)

/-- The options of a compilation that are given. -/
def compileOptions (b : Bindings) : Except UsageFault CompileOptions := do
  let memoryModel ← b.choice "memory-model" MemoryModel.choices
  let outputKind ← b.choice "output-kind" OutputKind.choices
  let extraArguments ← b.texts "extra"
  let source ← onlyArgument "source" b.arguments
  match b.text? "output" with
  | none => throw (.missing "output")
  | some output =>
    return { source, output, memoryModel, outputKind, extraArguments
             verbose := b.isOn "verbose", nomain := b.isOn "nomain", debug := b.isOn "debug" }

/-- The shell that is given. -/
def givenShell : List String → Except UsageFault (Option TerminalShell)
  | [] => .ok none
  | [w] =>
    match TerminalShell.choices.lookup w with
    | some s => .ok (some s)
    | none => if isNoChoice w then .ok none else .error (.invalidValue "shell" w)
  | _ :: w :: _ => .error (.unexpected w)

/-- The command of that name with what is given for it. -/
def Command.ofBindings (b : Bindings) : CommandName → Except UsageFault Command
  | .compile => do return .compile (← compileOptions b) b.directory
  | .run => do return .run (← onlyArgument "name" b.arguments) b.directory
  | .arguments => do return .arguments (← onlyArgument "name" b.arguments) b.directory
  | .targets => do
    noArgument b.arguments
    return .targets b.directory
  | .completion => do return .completion (← givenShell b.arguments)

/-- What a command line asks for. -/
inductive Request where
  | help
  | version
  | command (c : Command)
deriving DecidableEq

/-- One of the words before the delimiter is one of these. -/
def asksFor (calls words : List String) : Bool := (splitAtDelimiter words).1.any calls.contains

/-- The words ask for help. -/
def asksForHelp (words : List String) : Bool := asksFor helpWords words

/-- The words without those that ask for help. -/
def withoutHelp (words : List String) : List String :=
  (words.takeWhile (· ≠ delimiter)).filter (fun w => !helpWords.contains w)
    ++ words.dropWhile (· ≠ delimiter)

/-- Help is given for a command, for the program as a whole, and in place of any complaint about
options that come first. -/
def helps : List String → Bool
  | w :: _ => (commandNames.lookup w).isSome || w.toList.head? = some '-'
  | [] => true

/-- What the words of a command line ask for. -/
def parse (words : List String) : Except UsageFault Request :=
  if asksForHelp words then if helps (withoutHelp words) then .ok .help else .error .unknownCommand
  else if asksFor versionWords words then .ok .version
  else
    match words with
    | [] => .ok .help
    | w :: rest =>
      match commandNames.lookup w with
      | some name => do return .command (← Command.ofBindings (← bind name.parameters rest) name)
      | none => .error .unknownCommand

end CompilerRunner.CommandLine
