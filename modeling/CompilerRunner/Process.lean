import CompilerRunner.Failure
import CompilerRunner.Shell
import CompilerRunner.World

/-!
# Process

A child process, from the request to start it to what is known when it has ended.  The environment
and the argument list are handed over as they are.  A program that cannot be started, a working
directory that is none, and a time limit that passes are failures of the run; every other end is a
result.
-/

namespace CompilerRunner

/-- How long a process may take, in seconds; a truth value counts as 0 or 1. -/
inductive TimeLimit where
  | whole (n : Int)
  | real (x : Float)
  | flag (b : Bool)

/-- The limit as a value. -/
def TimeLimit.value : TimeLimit → Value
  | .whole n => .integer n
  | .real x => .float x
  | .flag b => .bool b

/-- The limit as a number, if it is not too large to be one. -/
def TimeLimit.seconds? : TimeLimit → Option Float
  | .whole n => Decimal.ofInteger? n
  | .real x => some x
  | .flag b => some (if b then 1 else 0)

namespace Process

/-- What a child process is started with. -/
structure Request where
  arguments : List String
  environment : Table String
  directory : Option Path := none
  captured : Bool := true
  limit : Option TimeLimit := none

/-- The text can be handed to the system. -/
def checkText (s : String) : Except Crash Unit :=
  if (Text.Utf8.encodeStray? s).isNone then .error .unencodableText
  else if s.toList.contains (Char.ofNat 0) then .error .invalidValue
  else .ok ()

/-- The request can be handed to the system: no name of a variable holds an equals sign. -/
def Request.check (r : Request) : Except Crash Unit := do
  r.environment.forM fun e => do
    if e.1.toList.contains '=' then throw .invalidValue
    checkText e.1
    checkText e.2
  r.arguments.forM checkText
  match r.directory with
  | some d => checkText d.text
  | none => pure ()

/-- The reason not to run a file, as a reason not to start the tool, if it is one. -/
def startFault? : ExecFault → Option StartFault
  | .notFound => some .notFound
  | .notDirectory => some .notDirectory
  | .permissionDenied => some .permissionDenied
  | .noInterpreter | .unsupported => none

/-- The failure to start a command because of `subject`. -/
def startFailure (command : String) (subject : String) (f : ExecFault) : Failure :=
  match startFault? f with
  | some f => .tool (.cannotStart command f subject)
  | none => .crash .system

/-- The directory that the child runs in. -/
def enter (w : World) (directory : Option Path) : Except ExecFault Location :=
  match directory with
  | none => .ok w.directory
  | some d =>
    match w.tree.find w.directory d.text with
    | .ok (l, .directory _ true) => .ok l
    | .ok (_, .directory _ false) => .error .permissionDenied
    | .ok _ => .error .notDirectory
    | .error f => .error (Program.faultOf f)

/-- The longest time, in milliseconds, that can be waited for output. -/
def waitLimit : Float := 2147483647

/-- The seconds that even the shortest process takes. -/
def leastTime : Float := 0.0005

/-- A captured output as a text: what is not UTF-8 is replaced, and line ends are unified. -/
def capturedText (bytes : List UInt8) : String :=
  String.ofList (Text.unifyLineEnds (Text.Utf8.decodeLossy bytes).toList)

/-- The exit code of a child: a signal counts as a negative one. -/
def exitCodeOf : Ending → Int
  | .exited code => (code % 256 : Nat)
  | .killed signal => -(signal : Int)

/-- What is known of a child that has ended. -/
def result (captured : Bool) (f : Finished) : InvocationResult :=
  { exitCode := exitCodeOf f.ending
    stdout := if captured then some (capturedText f.output) else none
    stderr := if captured then some (capturedText f.errors) else none }

/-- The result, unless the limit passed before the child ended. -/
def await (limit : Option TimeLimit) (captured : Bool) (f : Finished) :
    Except Failure InvocationResult :=
  match limit with
  | none => .ok (result captured f)
  | some l =>
    match l.seconds? with
    | none => .error (.crash .overflow)
    | some seconds =>
      let needed := (if captured then f.silent else f.elapsed) + leastTime
      if captured && seconds.isNaN then .error (.crash .invalidValue)
      else if captured && waitLimit < (seconds * 1000).ceil then .error (.crash .overflow)
      else if seconds ≤ needed then .error (.timeout l.value)
      else .ok (result captured f)

/-- The program and the directory that a request starts. -/
def start (w : World) (r : Request) : Except Failure (Location × Image) := do
  r.check.mapError .crash
  let command := r.arguments.head?.getD ""
  let directory ← (enter w r.directory).mapError
    (startFailure command ((r.directory.map Path.literal).getD ""))
  let image ← (Program.search w.tree directory r.environment r.arguments).mapError
    (startFailure command (Text.quoted command))
  return (directory, image)

/-- A child process from its start to its end. -/
def run (w : World) (r : Request) : Except Failure InvocationResult := do
  let (directory, image) ← start w r
  await r.limit r.captured (Shell.execute w.tree directory r.environment image)

end Process

end CompilerRunner
