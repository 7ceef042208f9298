import CompilerRunner.EntryPoint.Configuration

/-!
# Pipeline

From options or a target to a run of the compiler: the arguments are built first, then the tool is
chosen, and then it is run once.  How an entry point behaves as a tool is a parameter, `launch`; in
a world it is `EntryPoint.tool`.
-/

namespace CompilerRunner.Pipeline

/-- The tool to run: the one that is given, or the entry point that the settings choose. -/
def choose (launch : EntryPoint → Tool) (s : Settings) (tool : Option Tool) :
    Except Failure Tool :=
  match tool with
  | some t => .ok t
  | none => launch <$> EntryPoint.ofSettings s

/-- The compiler run with the options, by entry points that behave as `launch` says. -/
def runWith (launch : EntryPoint → Tool) (o : CompileOptions) (s : Settings)
    (tool : Option Tool) : Run InvocationResult := do
  let arguments ← Run.ofExcept (o.build.mapError .options)
  let t ← Run.ofExcept (choose launch s tool)
  t.invoke arguments

/-- The compiler run for the target, by entry points that behave as `launch` says. -/
def runTargetWith (launch : EntryPoint → Tool) (name : String) (s : Settings)
    (tool : Option Tool) : Run InvocationResult := do
  Run.log .info ("Compiling target " ++ name)
  let o ← Run.ofExcept (s.target name)
  runWith launch o s tool

/-- The compiler run with the options. -/
def run (w : World) (o : CompileOptions) (s : Settings) (tool : Option Tool) :
    Run InvocationResult :=
  runWith (EntryPoint.tool w) o s tool

/-- The compiler run for the target. -/
def runTarget (w : World) (name : String) (s : Settings) (tool : Option Tool) :
    Run InvocationResult :=
  runTargetWith (EntryPoint.tool w) name s tool

end CompilerRunner.Pipeline
