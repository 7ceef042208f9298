import CompilerRunner.FileTree
import CompilerRunner.Package
import CompilerRunner.Text.Blank
import CompilerRunner.Text.Utf8

/-!
# Package — Files

The catalogue of a directory on the import path.  A directory with the file `__init__.py` is a
package, a file `x.py` is the module `x`, and any other directory is a package without source of its
own; of several with one name the first kind wins.  Beside sources there are files of machine code
and of compiled sources (`Format`): such a file counts as a module too, but none that stands in a
tree of texts can be imported.  Listings follow the order of file names, leave out directories that
are no packages, and names with a dot.
-/

namespace CompilerRunner.Package

/-- What kind of file holds a module. -/
inductive Format where
  | machine
  | source
  | compiled
deriving DecidableEq

/-- The endings of files that hold modules, in the order in which a module is looked for. -/
def endings : List (String × Format) :=
  [(".cpython-312-x86_64-linux-gnu.so", .machine), (".abi3.so", .machine), (".so", .machine),
    (".py", .source), (".pyc", .compiled)]

/-- The name of the source that belongs to a package itself. -/
def ownSource : String := "__init__"

/-- The text before an ending. -/
def beforeEnding? (file ending : String) : Option String :=
  if file.endsWith ending then some (file.dropEnd ending.length).toString else none

/-- The module that a file stands for in a listing: the longest ending is taken off. -/
def moduleOfFile? (file : String) : Option String :=
  endings.findSome? fun e => beforeEnding? file e.1

/-- The name can be a segment of a dotted name. -/
def isSegment (name : String) : Bool := name ≠ "" && !name.toList.contains '.'

/-- The errors that a source may raise. -/
def raised : List (String × Crash) :=
  [("ValueError", .invalidValue), ("KeyError", .unknownKey), ("RuntimeError", .runtime),
    ("TypeError", .wrongType), ("ImportError", .noImport), ("ModuleNotFoundError", .noModule)]

/-- The text is a value that can be written down without any effect: a number, or a text without a
quotation mark in it. -/
def isConstant (s : String) : Bool :=
  match s.toList with
  | [] => false
  | c :: cs =>
    (c :: cs).all Char.isDigit ||
      ((c = '\'' ∨ c = '"') ∧ cs.getLast? = some c ∧ c ∉ cs.dropLast)

/-- The text is a name that a source can give a value to. -/
def isVariable (s : String) : Bool :=
  match s.toList with
  | [] => false
  | c :: cs => (c.isAlpha || c = '_') && cs.all fun c => c.isAlphanum || c = '_'

/-- What a line does, if it does anything.  A line that starts with a blank belongs to another. -/
def Statement.ofLine? (line : String) : Option Statement :=
  if line.toList.head? = some ' ' ∨ line.toList.head? = some '\t' then none
  else match (Text.split ' ' line).filter (· ≠ "") with
  | ["import", name] => some (.importName (Text.split '.' name))
  | ["from", ".", "import", name] => if isVariable name then some (.importSibling name) else none
  | [name, "=", value] => if isVariable name ∧ isConstant value then some (.bind name) else none
  | "raise" :: error :: _ =>
    (raised.lookup (String.ofList (error.toList.takeWhile (· ≠ '(')))).map .fail
  | _ => none

/-- What a source does. -/
def statementsOf (content : List UInt8) : List Statement :=
  let text := String.ofList (Text.unifyLineEnds (Text.Utf8.decodeLossy content).toList)
  (Text.split '\n' text).filterMap Statement.ofLine?

/-- The names of what stands in a directory, in order; none if they cannot be listed. -/
def filesIn (t : FileTree) (dir : Location) : List String :=
  match t.node? dir with
  | some (.directory true _) => Text.sorted (t.children dir)
  | _ => []

/-- The directory that a name in a directory leads to. -/
def subdirectory? (t : FileTree) (dir : Location) (name : String) : Option Location :=
  match t.find dir name with
  | .ok (l, .directory ..) => some l
  | _ => none

/-- What a file that holds a module does when the module is imported. -/
def Format.statements (format : Format) (content : List UInt8) (readable : Bool) :
    List Statement :=
  match format, readable with
  | .source, true => statementsOf content
  | .source, false | .compiled, false => [.fail .permission]
  | .machine, _ | .compiled, true => [.fail .noImport]

/-- What the module of a name in a directory does, if a file holds it. -/
def source? (t : FileTree) (dir : Location) (name : String) : Option (List Statement) :=
  endings.findSome? fun e =>
    match t.find dir (name ++ e.1) with
    | .ok (_, .file content _ readable) => some (e.2.statements content readable)
    | _ => none

/-- The entry that a file name in a directory stands for. -/
def entryOfFile? (t : FileTree) (dir : Location) (file : String) : Option Entry :=
  match moduleOfFile? file with
  | some name => if name ≠ ownSource ∧ isSegment name then some ⟨name, false⟩ else none
  | none =>
    match subdirectory? t dir file with
    | some l =>
      if isSegment file && (filesIn t l).any fun f => moduleOfFile? f == some ownSource then
        some ⟨file, true⟩
      else none
    | none => none

/-- The entries of a directory, the first of each name. -/
def entriesOf (t : FileTree) (dir : Location) : List Entry :=
  ((filesIn t dir).filterMap (entryOfFile? t dir)).foldl
    (fun es e => if es.any fun e' => e'.name == e.name then es else es ++ [e]) []

/-- The names under which something in a directory can be imported. -/
def importable (t : FileTree) (dir : Location) : List String :=
  ((filesIn t dir).flatMap fun f => f :: endings.filterMap fun e => beforeEnding? f e.1).filter
    isSegment

/-- The modules in a directory, whose names start with `stem`, down to `levels` below it. -/
def modulesIn (t : FileTree) : (levels : Nat) → (dir : Location) → (stem : Name) → Catalogue
  | 0, _, _ => []
  | levels + 1, dir, stem =>
    (importable t dir).eraseDups.flatMap fun n =>
      let package (l : Location) (source : List Statement) : Catalogue :=
        ⟨stem ++ [n], some (entriesOf t l), source⟩ :: modulesIn t levels l (stem ++ [n])
      match subdirectory? t dir n, source? t dir n with
      | some l, plain =>
        match source? t l ownSource, plain with
        | some source, _ => package l source
        | none, some source => [⟨stem ++ [n], none, source⟩]
        | none, none => package l []
      | none, some source => [⟨stem ++ [n], none, source⟩]
      | none, none => []

/-- The catalogue of a directory on the import path.  No name is longer than there are places in the
tree and links on one path. -/
def Catalogue.ofDirectory (t : FileTree) (dir : Location) : Catalogue :=
  modulesIn t (t.length + FileTree.linkLimit) dir []

end CompilerRunner.Package
