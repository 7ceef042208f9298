import CompilerRunner.Package.Import
import CompilerRunner.Text.Split

/-!
# Package — Walk

The import of a package with everything in it.  `importTree` imports a module and then, for every
entry of its directory, the tree of that entry.  Beside that it looks behind every entry that is a
package by importing it under its bare name, as a source would; if a package of that name is found,
its directory is listed too, though only entries that stand in the tree's own directory count.  A
bare name that cannot be imported is passed over, while any other failure ends the walk.
-/

namespace CompilerRunner.Package

mutual

/-- The import of a module and of everything in its directory. -/
def importTree (c : Catalogue) (loaded : Loaded) (tree : Name) : Progress :=
  match importName c loaded tree with
  | (loaded, none) =>
    match h : c.find? tree with
    | none => (loaded, none)
    | some m => visit c loaded tree (Catalogue.length_le_depth_of_find? h) tree [] m.entries
  | stopped => stopped
termination_by (c.depth + 1 - tree.length, c.depth + 2, 0)

/-- The rest of a walk over `entries` of a `directory`, which are listed under `stem`. -/
def visit (c : Catalogue) (loaded : Loaded) (tree : Name) (within : tree.length ≤ c.depth)
    (directory stem : Name) (entries : List Entry) : Progress :=
  match entries with
  | [] => (loaded, none)
  | e :: rest =>
    match if directory = tree then importTree c loaded (tree ++ stem ++ [e.name])
      else (loaded, none) with
    | (loaded, none) =>
      if e.isPackage then
        match importAsked c loaded (stem ++ [e.name]) with
        | (loaded, none) =>
          match h : c.find? (stem ++ [e.name]) with
          | none => visit c loaded tree within directory stem rest
          | some m =>
            have := Catalogue.length_le_depth_of_find? h
            match visit c loaded tree within (stem ++ [e.name]) (stem ++ [e.name]) m.entries with
            | (loaded, none) => visit c loaded tree within directory stem rest
            | stopped => stopped
        | (loaded, some fault) =>
          if fault.isImportFailure then visit c loaded tree within directory stem rest
          else (loaded, some fault)
      else visit c loaded tree within directory stem rest
    | stopped => stopped
termination_by (c.depth + 1 - tree.length, c.depth + 1 - stem.length, entries.length)
decreasing_by
  all_goals simp_all [Prod.lex_def]
  all_goals omega

end

/-- The import of the package with a dotted name and of everything in it.  The empty name is none,
and a name that starts with a dot has no meaning outside a package. -/
def importPackage (c : Catalogue) (loaded : Loaded) (name : String) : Progress :=
  if name = "" then (loaded, some (.failed .invalidValue))
  else if name.toList.head? = some '.' then (loaded, some (.failed .wrongType))
  else importTree c loaded (Text.split '.' name)

end CompilerRunner.Package
