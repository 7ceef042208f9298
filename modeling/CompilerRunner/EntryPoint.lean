import CompilerRunner.Callable.Reference
import CompilerRunner.Invocation
import CompilerRunner.Process

/-!
# EntryPoint

The two ways to reach the compiler: as a child process, or as a function.  `EntryPoint.tool` makes
either one a tool.
-/

namespace CompilerRunner

/-- A compiler that is a program of its own.  The variables of `environment` are added to those that
the child inherits. -/
structure ChildCommand where
  command : List String := ["konanc"]
  timeout : Option TimeLimit := none
  captureOutput : Bool := true
  environment : Table String := []
  directory : Option Path := none

/-- The function that a compiler is: one that a reference names, or one that is given. -/
inductive CallTarget where
  | reference (text : String)
  | function (title : String) (routine : Routine)

/-- A way to reach the compiler. -/
inductive EntryPoint where
  | child (c : ChildCommand)
  | call (target : CallTarget)

namespace ChildCommand

/-- The variables of the child.  Without variables of its own it inherits those of the program, and
otherwise it is given a copy of them with its own put in. -/
def variablesIn (c : ChildCommand) (w : World) : Table String :=
  if c.environment.isEmpty then w.environment else w.environment.overlay c.environment

/-- The request for a child process that is given the arguments. -/
def request (c : ChildCommand) (w : World) (arguments : List String) : Process.Request :=
  { arguments := c.command ++ arguments
    environment := c.variablesIn w
    directory := c.directory
    captured := c.captureOutput
    limit := c.timeout }

/-- The compiler as a tool, named by the first word of its command. -/
def tool (w : World) (c : ChildCommand) : Tool :=
  { name := c.command.head?.getD ""
    run := fun arguments => Run.ofExcept (Process.run w (c.request w arguments)) }

/-- The command, unless it is empty. -/
def checked (c : ChildCommand) : Except ToolFault ChildCommand :=
  if c.command.isEmpty then .error .emptyCommand else .ok c

end ChildCommand

namespace CallTarget

/-- The name of the function. -/
def title : CallTarget → String
  | .reference text => text
  | .function title _ => title

/-- The function itself. -/
def resolve (w : World) : CallTarget → Except Failure Routine
  | .reference text => Reference.resolve w.modules text
  | .function _ routine => .ok routine

/-- The function as a tool: a reference is followed anew by each run. -/
def tool (w : World) (t : CallTarget) : Tool :=
  { name := t.title
    run := fun arguments => do
      let routine ← Run.ofExcept (t.resolve w)
      routine.run arguments }

end CallTarget

/-- The entry point as a tool. -/
def EntryPoint.tool (w : World) : EntryPoint → Tool
  | .child c => c.tool w
  | .call t => t.tool w

end CompilerRunner
