import CompilerRunner.Failure

/-!
# Package

Modules that can be imported, under dotted names.  A `Catalogue` lists what an import path offers:
each module with what its source does, and for a package the modules that stand in its directory. A
name that is found is no longer than the catalogue is deep (`length_le_depth_of_find?`), and leaving
it out makes the catalogue shorter (`length_without_lt`); the first bounds the walk through a
package, the second the modules that run one inside another.
-/

namespace CompilerRunner.Package

/-- The segments of a dotted name. -/
abbrev Name := List String

/-- What a line of a module's source does when the module is imported: it imports a module by its
whole name, asks the module's package for a name, gives a value to a name, or fails. -/
inductive Statement where
  | importName (name : Name)
  | importSibling (name : String)
  | bind (name : String)
  | fail (kind : Crash)
deriving DecidableEq

/-- The name that a module has once the line has been run. -/
def Statement.bound? : Statement → Option String
  | .importName n => n.head?
  | .importSibling s | .bind s => some s
  | .fail _ => none

/-- The names that a module has once the lines have been run. -/
def bindings (source : List Statement) : List String := source.filterMap Statement.bound?

/-- The names that every package has, whatever its source does. -/
def givenNames : List String :=
  ["__annotations__", "__builtins__", "__cached__", "__class__", "__delattr__", "__dict__",
    "__dir__", "__doc__", "__eq__", "__file__", "__format__", "__ge__", "__getattribute__",
    "__getstate__", "__gt__", "__hash__", "__init__", "__init_subclass__", "__le__", "__loader__",
    "__lt__", "__name__", "__ne__", "__new__", "__package__", "__path__", "__reduce__",
    "__reduce_ex__", "__repr__", "__setattr__", "__sizeof__", "__spec__", "__str__",
    "__subclasshook__"]

/-- A module that stands in a package's directory. -/
structure Entry where
  name : String
  isPackage : Bool
deriving DecidableEq

/-- A module: a package if it has a directory, which may hold further modules. -/
structure Module where
  name : Name
  directory : Option (List Entry)
  source : List Statement
deriving DecidableEq

/-- A name and its parents, the outermost first. -/
def lineage (n : Name) : List Name := (List.range n.length).map fun k => n.take (k + 1)

/-- The package that a module belongs to: a package belongs to itself. -/
def Module.package (m : Module) : Name := if m.directory.isSome then m.name else m.name.dropLast

/-- The modules that stand in a module's directory. -/
def Module.entries (m : Module) : List Entry := m.directory.getD []

/-- The modules that an import path offers. -/
abbrev Catalogue := List Module

namespace Catalogue

/-- The module of that name. -/
def find? (c : Catalogue) (n : Name) : Option Module := List.find? (fun m => m.name == n) c

/-- The catalogue without the modules of that name. -/
def without (c : Catalogue) (n : Name) : Catalogue := c.filter fun m => !(m.name == n)

/-- The length of the longest name. -/
def depth (c : Catalogue) : Nat := (c.map fun m => m.name.length).foldr max 0

theorem name_of_find? {c : Catalogue} {n : Name} {m : Module} (h : c.find? n = some m) :
    m.name = n := by
  simpa using List.find?_some h

theorem mem_of_find? {c : Catalogue} {n : Name} {m : Module} (h : c.find? n = some m) : m ∈ c :=
  List.mem_of_find?_eq_some h

theorem length_le_depth {c : Catalogue} {m : Module} (h : m ∈ c) : m.name.length ≤ c.depth := by
  induction c with
  | nil => cases h
  | cons x rest ih =>
    simp only [depth, List.map_cons, List.foldr_cons]
    rcases List.mem_cons.1 h with rfl | h
    · exact Nat.le_max_left ..
    · exact Nat.le_trans (ih h) (Nat.le_max_right ..)

theorem length_le_depth_of_find? {c : Catalogue} {n : Name} {m : Module} (h : c.find? n = some m) :
    n.length ≤ c.depth :=
  name_of_find? h ▸ length_le_depth (mem_of_find? h)

theorem length_without_lt {c : Catalogue} {n : Name} {m : Module} (h : c.find? n = some m) :
    (c.without n).length < c.length := by
  have hm := mem_of_find? h
  refine Nat.lt_of_le_of_ne (List.length_filter_le ..) fun he => ?_
  have hall := List.length_filter_eq_length_iff.1 he m hm
  simp [name_of_find? h] at hall

end Catalogue

end CompilerRunner.Package
