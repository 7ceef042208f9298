import CompilerRunner.Failure
import CompilerRunner.World

/-!
# Directories

Where settings are looked for: first in the configuration directory of the user, then in every
directory from the root of the file tree down to the one that the command is run for.  `chain` lists
the directories between two paths, each a child of the one before (`chain_of_append`); `between` and
`hierarchy` resolve their paths first, and end in an error where there is nothing to list.
-/

namespace CompilerRunner

/-- A path that cannot be resolved, as the error that it ends in. -/
def PathFault.crash : PathFault → Crash
  | .notFound => .notFound
  | .notDirectory => .notDirectory
  | .permissionDenied => .permission
  | .tooManyLinks => .runtime
  | .tooLong => .system
  | .containsNul => .invalidValue

namespace Directories

/-- The name of the tool, and of its directory among the user's configuration directories. -/
def toolName : String := "konanrun"

/-- The name of a settings file. -/
def settingsFile : String := toolName ++ ".yml"

/-- The directories on the way from `start` by the names, each below the one before. -/
def descend (start : Path) : List String → List Path
  | [] => []
  | name :: rest => start.child name :: descend (start.child name) rest

/-- The names that lead from one place down to another. -/
def namesBelow : (start stop : Location) → Option (List String)
  | [], names => some names
  | a :: start, b :: stop => if a = b then namesBelow start stop else none
  | _ :: _, [] => none

/-- The directories from one path down to another, and the error that ends the list after its first
element if the second path is not below the first. -/
def chain (start stop : Path) : List Path × Option Crash :=
  match if start.anchor = stop.anchor then namesBelow start.parts stop.parts else none with
  | some names => (start :: descend start names, none)
  | none => ([start], some .invalidValue)

/-- The directories between the places that two paths stand for. -/
def between (w : World) (start stop : Path) : List Path × Option Crash :=
  match w.resolve start with
  | .error f => ([], some f.crash)
  | .ok a =>
    match w.resolve stop with
    | .error f => ([a], some f.crash)
    | .ok b => chain a b

/-- The directories that settings for `current` are looked for in, the most general first, and the
error that ends the list if there is one. -/
def hierarchy (w : World) (user current : Path) : List Path × Option Crash :=
  match w.resolve current with
  | .error f => ([user], some f.crash)
  | .ok place =>
    let (directories, fault) := between w { anchor := place.anchor, parts := [] } current
    (user :: directories, fault)

/-- The home directory of a user without one in the environment. -/
def defaultHome : String := "/root"

/-- The directory that configuration directories of programs stand in, by the environment. -/
def configurationHome (environment : Table String) : Path :=
  match environment.get? "XDG_CONFIG_HOME" with
  | some text => Path.ofText text
  | none =>
    let home := (environment.get? "HOME").getD defaultHome
    let trimmed := (home.toList.reverse.dropWhile (· = '/')).reverse
    Path.ofText (String.ofList trimmed ++ "/.config")

/-- The configuration directory of the user. -/
def userDirectory (w : World) : Except PathFault Path :=
  w.resolve ((configurationHome w.environment).join (Path.ofText toolName))

theorem namesBelow_append (start : Location) (names : List String) :
    namesBelow start (start ++ names) = some names := by
  induction start with
  | nil => rfl
  | cons a rest ih => simp [namesBelow, ih]

theorem chain_of_append (start : Path) (names : List String) :
    chain start { start with parts := start.parts ++ names } =
      (start :: descend start names, none) := by
  simp [chain, namesBelow_append]

end Directories

end CompilerRunner
