import CompilerRunner.Callable
import CompilerRunner.FileTree

/-!
# World

What a command finds when it starts: files, environment variables, the directory it runs in, the
modules that can be imported, and the terminal.  Nothing that the library does changes it.
-/

namespace CompilerRunner

/-- Where a command prints: so many columns, in UTF-8, with those of the units that are no
characters which the output takes nevertheless. -/
structure Console where
  width : Nat := 80
  takesUnit : Nat → Bool := fun _ => true

/-- What a command finds when it starts. -/
structure World where
  tree : FileTree
  environment : Table String
  directory : Location
  modules : Modules
  console : Console := {}

/-- The path of the place that a path stands for, seen from the directory that the command runs
in. -/
def World.resolve (w : World) (p : Path) : Except PathFault Path :=
  w.tree.resolve w.directory p

namespace Console

variable {c : Console} {lines : List String}

/-- The line can be written. -/
def takes (c : Console) (line : String) : Bool :=
  (Text.codes line).all fun n => !Text.isSurrogate n || c.takesUnit n

/-- Lines are printed, all of them or none. -/
def print (c : Console) (lines : List String) : Run Unit :=
  if lines.all c.takes then ⟨lines.map .printed, .ok ()⟩ else Run.fail (.crash .unencodableText)

theorem print_of_takes (h : lines.all c.takes = true) :
    c.print lines = ⟨lines.map .printed, .ok ()⟩ := if_pos h

theorem print_of_not_takes (h : lines.all c.takes = false) :
    c.print lines = ⟨[], .error (.crash .unencodableText)⟩ := if_neg (Bool.eq_false_iff.mp h)

end Console

end CompilerRunner
