import CompilerRunner.Failure
import CompilerRunner.FileTree
import CompilerRunner.Text.Utf8
import CompilerRunner.Yaml

/-!
# Document

Files that hold a value.  A file is read as UTF-8, its line ends are unified, and its text is one
document.  `contents` loads several files one after the other: those that do not exist contribute
nothing, and the first that cannot be loaded ends the list (`contents_append`).
-/

namespace CompilerRunner

/-- Why a file gives no value. -/
inductive LoadFault where
  | missing
  | unreadable (crash : Crash)
  | malformed (fault : Yaml.Fault)
deriving DecidableEq

/-- An accident in a document, as the error that it ends in. -/
def Yaml.Accident.crash : Yaml.Accident → Crash
  | .malformed => .invalidValue
  | .unknownWord => .unknownKey
  | .noMatch => .unknownAttribute
  | .emptyText => .indexOutOfRange
  | .outOfRange => .overflow
  | .notText => .wrongType
  | .endless => .recursion

/-- A path that leads nowhere, as the error that opening it ends in. -/
def PathFault.loadFault : PathFault → LoadFault
  | .notFound => .missing
  | .notDirectory => .unreadable .notDirectory
  | .permissionDenied => .unreadable .permission
  | .tooManyLinks | .tooLong => .unreadable .system
  | .containsNul => .unreadable .invalidValue

namespace Document

/-- The value of a text. -/
def ofText (text : List Char) : Except LoadFault Value :=
  match Yaml.read text with
  | .ok v => .ok v
  | .error (.accident kind) => .error (.unreadable kind.crash)
  | .error f => .error (.malformed f)

/-- The value of the content of a file. -/
def ofBytes (bytes : List UInt8) : Except LoadFault Value :=
  match Text.Utf8.decodeChars? bytes with
  | some cs => ofText (Text.unifyLineEnds cs)
  | none => .error (.unreadable .undecodableText)

/-- The value of a file. -/
def load (t : FileTree) (directory : Location) (path : String) : Except LoadFault Value :=
  match t.find directory path with
  | .error f => .error f.loadFault
  | .ok (_, .file content _ true) => ofBytes content
  | .ok (_, .file _ _ false) | .ok (_, .directory false _) => .error (.unreadable .permission)
  | .ok (_, .directory true _) => .error (.unreadable .isDirectory)
  | .ok (_, .program _) | .ok (_, .link _) => .error (.unreadable .undecodableText)

/-- The values of the files that exist, up to the first that cannot be loaded, and why it cannot. -/
def contents {α : Type} (read : α → Except LoadFault Value) :
    List α → List Value × Option LoadFault
  | [] => ([], none)
  | path :: rest =>
    match read path with
    | .ok v => (v :: (contents read rest).1, (contents read rest).2)
    | .error .missing => contents read rest
    | .error f => ([], some f)

theorem contents_append {α : Type} {read : α → Except LoadFault Value} {l : List α}
    (h : (contents read l).2 = none) (r : List α) :
    contents read (l ++ r) =
      ((contents read l).1 ++ (contents read r).1, (contents read r).2) := by
  induction l with
  | nil => rfl
  | cons path rest ih =>
    simp only [List.cons_append, contents] at h ⊢
    split at h <;> simp_all

end Document

end CompilerRunner
