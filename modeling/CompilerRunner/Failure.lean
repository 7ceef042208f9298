import CompilerRunner.InvocationResult
import CompilerRunner.Validation.Defect
import CompilerRunner.Value.Digits
import CompilerRunner.Value.Literal
import CompilerRunner.Yaml.Fault

/-!
# Failure

Everything that ends a command early, by cause.  The tool's own failures (`Failure.isReported`) are
reported to the user in the words of `Failure.message`; data that is rejected where nobody wraps it,
and a `Crash`, leave the program as they are.  A value that is put in words has to have a form
(`Value.shown`), and there is no failure with an exit code that has none (`Failure.ofExitCode`).
-/

namespace CompilerRunner

/-- What is wrong with the settings. -/
inductive SettingsFault where
  | unknownKey (registry key : String) (known : List String)
  | invalidConfiguration (registry key : String) (rejection : Rejection)
  | unknownTarget (name : String) (known : List String)
  | unparsable (fault : Yaml.Fault)
  | notMapping
  | invalid (rejection : Rejection)
  | stated (text : String)

/-- What is wrong with the options of a compilation. -/
inductive OptionsFault where
  | blankSource
  | blankOutput
  | invalidTarget (name : String) (rejection : Rejection)
  | stated (text : String)

/-- Why the system does not start a program. -/
inductive StartFault where
  | notFound
  | permissionDenied
  | notDirectory
deriving DecidableEq

/-- Why there is no tool to run.  A program's name or directory is given in quotes. -/
inductive ToolFault where
  | emptyCommand
  | cannotStart (command : String) (fault : StartFault) (subject : String)
  | malformedReference (reference : String)
  | noModule (module missing : String) (parent : Option String)
  | noMember (member module : String)
  | notCallable (reference : String)
  | stated (text : String)

/-- An error that the tool does not report as its own. -/
inductive Crash where
  | invalidValue
  | unknownKey
  | unknownAttribute
  | wrongType
  | indexOutOfRange
  | overflow
  | undecodableText
  | unencodableText
  | system
  | permission
  | isDirectory
  | notDirectory
  | notFound
  | notImplemented
  | noModule
  | noImport
  | runtime
  | recursion
  | markup
deriving DecidableEq

/-- What ends a command early.  An exit code that has no form in messages cannot be reported. -/
inductive Failure where
  | settings (fault : SettingsFault)
  | options (fault : OptionsFault)
  | tool (fault : ToolFault)
  | compilation (code : Value) (result : Option InvocationResult)
      (written : code.isOversized = false)
  | timeout (limit : Value)
  | stated (text : String)
  | rejected (rejection : Rejection)
  | crash (kind : Crash)

/-- The form of a value in a message; a number of too many digits has none. -/
def Value.shown (v : Value) : Except Failure String :=
  if v.isOversized then .error (.crash .invalidValue) else .ok v.display

/-- The failure with an exit code, which it puts in words. -/
def Failure.ofExitCode (code : Value) (result : Option InvocationResult) : Failure :=
  if written : code.isOversized = false then .compilation code result written
  else .crash .invalidValue

section Oversized

variable {v : Value} {result : Option InvocationResult}

theorem Value.shown_of_written (h : v.isOversized = false) : v.shown = .ok v.display :=
  if_neg (Bool.eq_false_iff.mp h)

theorem Value.shown_of_oversized (h : v.isOversized = true) :
    v.shown = .error (.crash .invalidValue) := if_pos h

theorem Failure.ofExitCode_of_written (h : v.isOversized = false) :
    ofExitCode v result = .compilation v result h := dif_pos h

end Oversized

/-- The choices after a complaint about an unknown name. -/
def expectedOneOf (known : List String) : String :=
  ", expected one of " ++ String.intercalate ", " known

/-- The first line of a complaint about settings. -/
def SettingsFault.message : SettingsFault → String
  | .unknownKey registry key known =>
    "unknown " ++ registry ++ " " ++ Text.quoted key ++ expectedOneOf known
  | .invalidConfiguration registry key _ =>
    "invalid configuration for " ++ registry ++ "/" ++ key ++ ":"
  | .unknownTarget name known =>
    "unknown target " ++ Text.quoted name ++ if known.isEmpty then "" else expectedOneOf known
  | .unparsable _ => "could not parse a konanrun.yml file:"
  | .notMapping => "konanrun.yml files must contain a mapping"
  | .invalid _ => "invalid settings:"
  | .stated text => text

/-- The first line of a complaint about options. -/
def OptionsFault.message : OptionsFault → String
  | .blankSource => "the source path cannot be empty"
  | .blankOutput => "the output path cannot be empty"
  | .invalidTarget name _ => "invalid options for target " ++ Text.quoted name ++ ":"
  | .stated text => text

/-- The number and the words of the system's answer. -/
def StartFault.message : StartFault → String
  | .notFound => "[Errno 2] No such file or directory"
  | .permissionDenied => "[Errno 13] Permission denied"
  | .notDirectory => "[Errno 20] Not a directory"

/-- A complaint about the tool. -/
def ToolFault.message : ToolFault → String
  | .emptyCommand => "the compiler command cannot be empty"
  | .cannotStart command fault subject =>
    "could not start " ++ command ++ ": " ++ fault.message ++ ": " ++ subject
  | .malformedReference reference =>
    Text.quoted reference ++ " is not of the form package.module:function"
  | .noModule module missing parent =>
    "could not import " ++ module ++ ": No module named " ++ Text.quoted missing ++
      match parent with
      | some p => "; " ++ Text.quoted p ++ " is not a package"
      | none => ""
  | .noMember member module => "could not find " ++ member ++ " in " ++ module
  | .notCallable reference => reference ++ " is not callable"
  | .stated text => text

/-- The first line of what is reported to the user. -/
def Failure.message : Failure → String
  | .settings fault => fault.message
  | .options fault => fault.message
  | .tool fault => fault.message
  | .compilation code _ _ => "compilation failed with exit code " ++ code.display
  | .timeout limit => "compilation did not finish within " ++ limit.display ++ " seconds"
  | .stated text => text
  | .rejected _ | .crash _ => ""

/-- The failure is one of the tool's own, which it reports to the user. -/
def Failure.isReported : Failure → Bool
  | .rejected _ | .crash _ => false
  | _ => true

/-- The text of a failure that is stated with several values: none is empty, one is shown plainly,
several are shown as a tuple. -/
def statedText : List Value → String
  | [] => ""
  | [v] => v.display
  | vs => (Value.tuple vs).literal

end CompilerRunner
