/-!
# InvocationResult

What a run of the compiler leaves: its exit code and, where they were captured, its two outputs.
-/

namespace CompilerRunner

/-- The outcome of one run of the compiler. -/
structure InvocationResult where
  exitCode : Int
  stdout : Option String := none
  stderr : Option String := none
deriving DecidableEq

/-- The run was successful: its exit code is zero. -/
def InvocationResult.ok (r : InvocationResult) : Bool := r.exitCode == 0

end CompilerRunner
