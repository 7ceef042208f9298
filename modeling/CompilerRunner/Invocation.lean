import CompilerRunner.Run

/-!
# Invocation

A tool is anything that can be run with an argument list.  `Tool.invoke` runs it once and reports
how it went: a tool that fails is not run again, and its failure is passed on as it is.  An exit
code of too many digits can neither be logged nor reported.
-/

namespace CompilerRunner

/-- Something that can be run, with the name that it has in messages. -/
structure Tool where
  name : String
  run : List String → Run InvocationResult

/-- A warning with a captured output, unless nothing was captured. -/
def reportOutput (stream : String) (captured : Option String) : Run Unit :=
  match captured with
  | none | some "" => pure ()
  | some s => Run.log .warning ("Captured " ++ stream ++ "\n" ++ s)

/-- The result of a run, if the run was successful. -/
def demandSuccess (r : InvocationResult) : Run InvocationResult :=
  if r.ok then do
    Run.log .info "Compilation succeeded"
    pure r
  else do
    let code ← Run.ofExcept (Value.integer r.exitCode).shown
    Run.log .warning ("Compilation failed with exit code " ++ code)
    reportOutput "stderr" r.stderr
    reportOutput "stdout" r.stdout
    Run.fail (.ofExitCode (.integer r.exitCode) (some r))

/-- One run of the tool with the arguments. -/
def Tool.invoke (t : Tool) (arguments : List String) : Run InvocationResult := do
  Run.log .info ("Invoking " ++ t.name ++ " with " ++ String.intercalate " " arguments)
  let r ← t.run arguments
  demandSuccess r

end CompilerRunner
