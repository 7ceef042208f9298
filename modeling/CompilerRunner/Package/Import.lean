import CompilerRunner.Package

/-!
# Package — Import

What an import does.  A module's source runs once, after its parents'; the module counts as loaded
from the moment its source starts, so that modules may import one another in a circle, and no longer
if its source fails.  What a source asks its package for is a name that the package has so far, or
else a module in it.  What a source imports is looked up in a catalogue without its module, since a
module that runs is not started again; this bounds how far modules run one inside another.
-/

namespace CompilerRunner.Package

/-- Why an import fails. -/
inductive ImportFault where
  | noModule (name : Name)
  | noMember
  | failed (kind : Crash)
deriving DecidableEq

/-- What cannot be imported, as it leaves the program. -/
def ImportFault.crash : ImportFault → Crash
  | .noModule _ => .noModule
  | .noMember => .noImport
  | .failed kind => kind

/-- The fault is that of an import, which a search may pass over. -/
def ImportFault.isImportFailure : ImportFault → Bool
  | .noModule _ | .noMember | .failed .noImport | .failed .noModule => true
  | .failed _ => false

/-- The modules that are loaded, the latest first. -/
abbrev Loaded := List Name

/-- The modules that are loaded in the end, and what went wrong. -/
abbrev Progress := Loaded × Option ImportFault

/-- The modules that are running, one inside another, each with the names that it has so far. -/
abbrev Running := List (Name × List String)

/-- The names that a package has, apart from those of the modules in it that are loaded: all that
its source gives it, or what it has given it so far if it is running. -/
def namesOf (c : Catalogue) (running : Running) (package : Name) : List String :=
  givenNames ++
    match running.lookup package with
    | some names => names
    | none =>
      match c.find? package with
      | some m => bindings m.source
      | none => []

/-- The names of a module and its parents that are still to be imported, the outermost first: those
below the innermost that is loaded. -/
def unloaded (loaded : Loaded) (n : Name) : List Name :=
  ((lineage n).reverse.takeWhile fun p => p ∉ loaded).reverse

/-- The names to be imported, one after another, for a source that imports a module: those of the
module and its parents, and at last the outermost again, since that is what the source is given. -/
def asked (loaded : Loaded) (n : Name) : List Name := unloaded loaded n ++ (lineage n).take 1

mutual

/-- The import of modules one after another, each below a loaded one. -/
def loadEach (c : Catalogue) (running : Running) (loaded : Loaded) (names : List Name) : Progress :=
  match names with
  | [] => (loaded, none)
  | n :: rest =>
    match load c running loaded n with
    | (loaded, none) => loadEach c running loaded rest
    | stopped => stopped
termination_by (c.length, 1, names.length)

/-- The import of a module whose parents are loaded. -/
def load (c : Catalogue) (running : Running) (loaded : Loaded) (n : Name) : Progress :=
  if n ∈ loaded then (loaded, none)
  else
    match h : c.find? n with
    | none => (loaded, some (.noModule n))
    | some m =>
      have := Catalogue.length_without_lt h
      match execute (c.without n) running (n :: loaded) m [] m.source with
      | (loaded, some fault) => (loaded.erase n, some fault)
      | finished => finished
termination_by (c.length, 0, 0)

/-- The run of the rest of a module's source, when the module has the names `bound`. -/
def execute (c : Catalogue) (running : Running) (loaded : Loaded) (m : Module)
    (bound : List String) (source : List Statement) : Progress :=
  match source with
  | [] => (loaded, none)
  | .fail kind :: _ => (loaded, some (.failed kind))
  | .bind s :: rest => execute c running loaded m (s :: bound) rest
  | .importName n :: rest =>
    match loadEach c ((m.name, bound) :: running) loaded (asked loaded n) with
    | (loaded, none) => execute c running loaded m (n.head?.toList ++ bound) rest
    | stopped => stopped
  | .importSibling s :: rest =>
    if m.package = [] then (loaded, some .noMember)
    else if s ∈ namesOf c ((m.name, bound) :: running) m.package then
      execute c running loaded m (s :: bound) rest
    else
      match load c ((m.name, bound) :: running) loaded (m.package ++ [s]) with
      | (loaded, none) => execute c running loaded m (s :: bound) rest
      | (loaded, some (.noModule n)) =>
        (loaded, some (if n = m.package ++ [s] then .noMember else .noModule n))
      | stopped => stopped
termination_by (c.length, 2, source.length)

end

/-- The import of a module by its whole name. -/
def importName (c : Catalogue) (loaded : Loaded) (n : Name) : Progress :=
  loadEach c [] loaded (unloaded loaded n)

/-- The import of a module as a source imports it. -/
def importAsked (c : Catalogue) (loaded : Loaded) (n : Name) : Progress :=
  loadEach c [] loaded (asked loaded n)

end CompilerRunner.Package
