import CompilerRunner.FileTree

/-!
# Process — Cat

The program that writes what files hold, one after another.
-/

namespace CompilerRunner.Cat

/-- What is said about a path that leads nowhere. -/
def reason : PathFault → String
  | .notFound | .containsNul => "No such file or directory"
  | .notDirectory => "Not a directory"
  | .permissionDenied => "Permission denied"
  | .tooManyLinks => "Too many levels of symbolic links"
  | .tooLong => "File name too long"

/-- The bytes of a file, or why there are none. -/
def content (t : FileTree) (directory : Location) (path : String) : Except String (List UInt8) :=
  match t.find directory path with
  | .ok (_, .file content _ true) => .ok content
  | .ok (_, .file _ _ false) | .ok (_, .directory false _) => .error (reason .permissionDenied)
  | .ok (_, .directory true _) => .error "Is a directory"
  | .ok _ => .ok []
  | .error f => .error (reason f)

/-- The complaint about a file. -/
def complaint (path message : String) : String := "cat: " ++ path ++ ": " ++ message ++ "\n"

end CompilerRunner.Cat
