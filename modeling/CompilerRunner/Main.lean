import CompilerRunner.CommandLine

/-!
# Main

The program on a real terminal.  The environment, the working directory and the settings files that
may apply are read first; what the library makes of them is then printed and logged, and its status
ends the program.
-/

namespace CompilerRunner.Terminal

/-- The environment variables that the program looks at. -/
def variableNames : List String := ["PATH", "HOME", "XDG_CONFIG_HOME", "SHELL", "COLUMNS"]

/-- The variables that are set. -/
def readVariables : IO (Table String) :=
  variableNames.filterMapM fun name => do
    return (← IO.getEnv name).map fun value => (name, value)

/-- The content of a file, if it can be read. -/
def readFile? (path : String) : IO (Option (List UInt8)) := do
  try
    return some (← IO.FS.readBinFile path).toList
  catch _ => return none

/-- The tree with a directory and what settings it has. -/
def addDirectory (t : FileTree) (l : Location) : IO FileTree := do
  let t := t.makeDirectories l
  let file := l ++ [Directories.settingsFile]
  match ← readFile? (Path.ofLocation file).text with
  | some content => return t.put file (.file content false)
  | none => return t

/-- The directories on the way to a place, and the place. -/
def ancestors (l : Location) : List Location :=
  (List.range (l.length + 1)).map fun n => l.take n

/-- The terminal, whose width a variable may tell.  Its output takes characters only. -/
def consoleOf (environment : Table String) : Console :=
  { width := ((environment.get? "COLUMNS").bind String.toNat?).getD 80
    takesUnit := fun _ => false }

/-- What the program finds, where the words of the command line may name directories. -/
def observe (words : List String) : IO World := do
  let environment ← readVariables
  let directory := (Path.ofText (← IO.currentDir).toString).parts
  let bare : World :=
    { tree := [], environment, directory, modules := [], console := consoleOf environment }
  let named := words.filterMap fun w =>
    (bare.resolve (Path.ofText ((CommandLine.splitValue w).2.getD w))).toOption
  let paths := (Directories.userDirectory bare).toOption.toList ++ named
  let places := directory :: paths.map Path.parts
  let tree ← (places.flatMap ancestors).eraseDups.foldlM addDirectory []
  return { bare with tree }

/-- The name of a level in the log. -/
def levelName : Level → String
  | .info => "INFO"
  | .warning => "WARNING"
  | .error => "ERROR"
  | .critical => "CRITICAL"

/-- What the terminal shows of an event. -/
def showEvent : Event → IO Unit
  | .printed line => IO.println line
  | .logged level message => IO.eprintln (levelName level ++ " " ++ message)
  | .called _ _ => return ()

/-- The program. -/
def start (words : List String) : IO UInt32 := do
  let r := CommandLine.run (← observe words) words
  r.events.forM showEvent
  if let .error fault := CommandLine.parse words then IO.eprintln fault.message
  if let .error _ := r.outcome then IO.eprintln "the program has failed"
  return (CommandLine.exitStatus r).toUInt32

end CompilerRunner.Terminal

def main (words : List String) : IO UInt32 := CompilerRunner.Terminal.start words
