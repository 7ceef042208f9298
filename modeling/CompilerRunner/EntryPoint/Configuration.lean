import CompilerRunner.EntryPoint
import CompilerRunner.Settings

/-!
# EntryPoint — Configuration

Entry points from settings.  Each of the two kinds has a key and a record of fields of its own;
fields that it does not know are ignored.  The directory of a child is taken from the directory that
the settings are for (`directoryFor`).
-/

namespace CompilerRunner

namespace ChildCommand

open Validation

/-- What records of fields for a child process are called. -/
def title : String := "SubprocessEntryPointExtraKwArgs"

/-- The directory that a child runs in: the one of the settings if none is configured, and seen from
there if a relative one is. -/
def directoryFor (current configured : Option Path) : Option Path :=
  match current with
  | none => configured
  | some c => some ((configured.map c.join).getD c)

/-- The child process that the entries of a mapping stand for, for settings for the directory
`current`. -/
def check (current : Option Path) (es : Entries) : Checked ChildCommand :=
  ChildCommand.mk <$> withDefault es "command" ["konanc"] (sequence text)
    <*> withDefault es "timeout" none (fun v => (optional positiveNumber v).map (·.map .real))
    <*> withDefault es "capture_output" true flag
    <*> withDefault es "environment" [] (table text)
    <*> (withDefault es "cwd" none (optional path)).map (directoryFor current)

end ChildCommand

namespace CallTarget

open Validation

/-- What records of fields for a function are called. -/
def recordTitle : String := "CallableEntryPointExtraKwArgs"

/-- The function that the entries of a mapping stand for. -/
def check (es : Entries) : Checked CallTarget :=
  CallTarget.reference <$> required es "target" text

end CallTarget

namespace EntryPoint

/-- The registry of entry points. -/
def registry : String := "entry_point"

/-- The kinds of entry points. -/
inductive Kind where
  | callable
  | subprocess
deriving DecidableEq

/-- The key that a kind is registered under. -/
def Kind.key : Kind → String
  | .callable => "callable"
  | .subprocess => "subprocess"

/-- All kinds, by increasing key. -/
def kinds : List Kind := [.callable, .subprocess]

/-- The entry point of a kind that the fields of a configuration stand for. -/
def ofFields (kind : Kind) (current : Option Path) (fields : Entries) :
    Except Rejection EntryPoint :=
  match kind with
  | .subprocess => .child <$> (ChildCommand.check current fields).toExcept ChildCommand.title
  | .callable => .call <$> (CallTarget.check fields).toExcept CallTarget.recordTitle

/-- The entry point, unless it is a child process with an empty command. -/
def checked : EntryPoint → Except ToolFault EntryPoint
  | .child c => .child <$> c.checked
  | .call t => .ok (.call t)

/-- The entry point of a kind that the settings configure. -/
def configure (kind : Kind) (s : Settings) : Except Failure EntryPoint := do
  let fields := Settings.entriesOf (s.configuration registry kind.key)
  let e ← (ofFields kind s.currentDirectory fields).mapError fun r =>
    .settings (.invalidConfiguration registry kind.key r)
  e.checked.mapError .tool

/-- The entry point that the settings configure under the key. -/
def new (key : String) (s : Settings) : Except Failure EntryPoint :=
  match kinds.find? fun k => k.key = key with
  | some kind => configure kind s
  | none => .error (.settings (.unknownKey registry key (kinds.map Kind.key)))

/-- The entry point that the settings choose. -/
def ofSettings (s : Settings) : Except Failure EntryPoint := new s.entryPoint s

end EntryPoint

end CompilerRunner
