import CompilerRunner.Path
import CompilerRunner.Text.Utf8

/-!
# FileTree

Files, directories and links, with what the process may do with them.  A place is the list of names
that leads to it from the root (`Location`); the root is always a directory that may be searched.
`locate` follows a path strictly, as opening it would, over at most `linkLimit` links.  `follow`
follows a path as far as it exists and can be seen (`seen?`) and takes the rest as it is written; a
link that leads back to itself is taken as it is written too, with all that comes after it.
`resolve` is where a path leads in this way, unless opening that place would fail because of links.
-/

namespace CompilerRunner

/-- The programs that every system has. -/
inductive SystemProgram where
  | shell
  | sleep
  | cat
deriving DecidableEq

/-- The names that lead from the root to a place. -/
abbrev Location := List String

/-- What stands at a place.  The names in a directory may be listed or not, and what stands in it
may be reached or not; a file may be run or not, and read or not. -/
inductive FileTree.Node where
  | directory (listable : Bool := true) (searchable : Bool := true)
  | file (content : List UInt8) (executable : Bool) (readable : Bool := true)
  | program (kind : SystemProgram)
  | link (target : String)

/-- The places of a file tree below the root. -/
abbrev FileTree := List (Location × FileTree.Node)

/-- Why a path leads nowhere. -/
inductive PathFault where
  | notFound
  | notDirectory
  | permissionDenied
  | tooManyLinks
  | tooLong
  | containsNul
deriving DecidableEq

namespace FileTree

/-- What stands at a place, links not followed. -/
def node? (t : FileTree) (l : Location) : Option Node :=
  if l = [] then some .directory else t.lookup l

/-- The most links that are followed on one path. -/
def linkLimit : Nat := 40

/-- Where a link leads from, and by which pieces: the root for an absolute target, else the
directory the link stands in. -/
def followLink (dir : Location) (target : String) : Location × List String :=
  if (Path.ofText target).isAbsolute then ([], Path.pieces target) else (dir, Path.pieces target)

/-- The longest name of a file, in bytes. -/
def nameLimit : Nat := 255

/-- The longest path, in bytes. -/
def pathLimit : Nat := 4095

/-- The number of bytes of a name or path. -/
def byteCount (s : String) : Nat := ((Text.Utf8.encodeStray? s).getD []).length

/-- The place that the pieces lead to from `dir`, all of which must exist; `links` more links may be
followed.  An empty piece asks for a directory, and any other one for the right to search it. -/
def walk (t : FileTree) (links : Nat) (dir : Location) (pieces : List String) :
    Except PathFault Location :=
  match pieces with
  | [] => .ok dir
  | p :: rest =>
    match t.node? dir with
    | some (.directory _ searchable) =>
      if p = "" then walk t links dir rest
      else if searchable = false then .error .permissionDenied
      else if p = "." then walk t links dir rest
      else if p = ".." then walk t links dir.dropLast rest
      else
        match t.node? (dir ++ [p]) with
        | none => .error (if nameLimit < byteCount p then .tooLong else .notFound)
        | some (.link target) =>
          match links with
          | 0 => .error .tooManyLinks
          | l + 1 => walk t l (followLink dir target).1 ((followLink dir target).2 ++ rest)
        | some _ => walk t links (dir ++ [p]) rest
    | _ => .error .notDirectory
termination_by (links, pieces.length)

/-- The place that a path leads to from the directory `dir`, if all of it exists. -/
def locate (t : FileTree) (dir : Location) (path : String) : Except PathFault Location :=
  if path.toList.contains (Char.ofNat 0) then .error .containsNul
  else if path = "" then .error .notFound
  else if pathLimit < byteCount path then .error .tooLong
  else if (Path.ofText path).isAbsolute then t.walk linkLimit [] (Path.pieces path)
  else t.walk linkLimit dir (Path.pieces path)

/-- What stands where a path leads to. -/
def find (t : FileTree) (dir : Location) (path : String) : Except PathFault (Location × Node) := do
  let l ← t.locate dir path
  match t.node? l with
  | some n => return (l, n)
  | none => throw .notFound

/-- The place that names lead to from `dir`, links not followed. -/
def below (dir : Location) (names : List String) : Location :=
  names.foldl (fun l p =>
    if p = "" ∨ p = "." then l else if p = ".." then l.dropLast else l ++ [p]) dir

/-- The place that a path names from `dir`, links not followed. -/
def spot (dir : Location) (p : Path) : Location := below (if p.isAbsolute then [] else dir) p.parts

/-- A directory that may not be searched stands at the place. -/
def isClosed (t : FileTree) (l : Location) : Bool :=
  match t.node? l with
  | some (.directory _ searchable) => !searchable
  | _ => false

/-- The way from `dir` by the names leads through a directory that may not be searched, links not
followed. -/
def isHidden (t : FileTree) (dir : Location) : List String → Bool
  | [] => false
  | name :: rest => t.isClosed dir || isHidden t (below dir [name]) rest

/-- What is seen at the place that a path names from `dir`, links not followed. -/
def seen? (t : FileTree) (dir : Location) (p : Path) : Option Node :=
  if t.isHidden (if p.isAbsolute then [] else dir) p.parts then none else t.node? (spot dir p)

/-- The path that pieces name from another path, links not followed.  Pieces that start with slashes
name it from the root that these slashes are. -/
def asWritten (start : Path) (pieces : List String) : Path :=
  match Path.anchorOf (String.intercalate "/" pieces).toList with
  | .relative => { start with parts := below start.parts pieces }
  | anchor => { anchor, parts := below [] pieces }

/-- Where the links lead that have been met; nowhere yet while one is followed.  A link that is met
under two paths counts as two. -/
abbrev Trail := List (Path × Option Path)

/-- The path that the pieces lead to from `p`, where what is not seen is taken as written, and the
links on the way.  If a link leads back to itself, the pieces from there on are taken as written,
and the path they name is the error.  At most `depth` links may be followed one inside another. -/
def follow (t : FileTree) (dir : Location) (depth : Nat) (trail : Trail) (p : Path)
    (pieces : List String) : Except Path (Path × Trail) :=
  match pieces with
  | [] => .ok (p, trail)
  | name :: rest =>
    if name = "" ∨ name = "." then follow t dir depth trail p rest
    else if name = ".." then follow t dir depth trail p.parent rest
    else
      match t.seen? dir (p.child name) with
      | some (.link target) =>
        match trail.lookup (p.child name) with
        | some (some q) => follow t dir depth trail q rest
        | some none => .error (asWritten (Path.ofLocation (spot dir (p.child name))) rest)
        | none =>
          match depth with
          | 0 => .error (asWritten (Path.ofLocation (spot dir (p.child name))) rest)
          | d + 1 =>
            let start := if (Path.ofText target).isAbsolute then Path.ofLocation [] else p
            match follow t dir d ((p.child name, none) :: trail) start (Path.pieces target) with
            | .ok (q, trail) => follow t dir (d + 1) ((p.child name, some q) :: trail) q rest
            | .error q => .error (asWritten q rest)
      | _ => follow t dir depth trail (p.child name) rest
termination_by (depth, pieces.length)

/-- The number of links in the tree. -/
def linkCount (t : FileTree) : Nat :=
  t.countP fun e =>
    match e.2 with
    | .link _ => true
    | _ => false

/-- What a path comes to if it is followed from where it starts. -/
def followed (t : FileTree) (dir : Location) (p : Path) : Except Path (Path × Trail) :=
  let start := if p.isAbsolute then Path.ofLocation [] else { p with parts := [] }
  t.follow dir ((dir.length + 2) * t.linkCount) [] start p.parts

/-- The path of the place that a path stands for, seen from the directory `dir`, where what cannot
be followed is taken as written. -/
def destination (t : FileTree) (dir : Location) (p : Path) : Path :=
  match t.followed dir p with
  | .ok (q, _) => Path.ofLocation (spot dir q)
  | .error q => q

/-- The place that a path stands for, seen from the directory `dir`. -/
def place (t : FileTree) (dir : Location) (p : Path) : Location := (t.destination dir p).parts

/-- The path of the place that a path stands for, seen from the directory `dir`, whether it exists
or not. -/
def resolve (t : FileTree) (dir : Location) (p : Path) : Except PathFault Path :=
  if p.parts.any fun s => s.toList.contains (Char.ofNat 0) then .error .containsNul
  else
    match t.walk linkLimit [] (t.place dir p) with
    | .error .tooManyLinks => .error .tooManyLinks
    | _ => .ok (t.destination dir p)

/-- A regular file stands where the path leads. -/
def isFile (t : FileTree) (dir : Location) (path : String) : Bool :=
  match t.find dir path with
  | .ok (_, .file ..) | .ok (_, .program _) => true
  | _ => false

/-- A directory stands where the path leads. -/
def isDirectory (t : FileTree) (dir : Location) (path : String) : Bool :=
  match t.find dir path with
  | .ok (_, .directory ..) => true
  | _ => false

/-- The tree with a node put at a place, in the place of what stood there. -/
def put (t : FileTree) (l : Location) (n : Node) : FileTree :=
  (l, n) :: t.filter fun e => e.1 ≠ l

/-- The tree with directories at a place and on the way to it, where nothing stood before. -/
def makeDirectories (t : FileTree) (l : Location) : FileTree :=
  ((List.range (l.length + 1)).map fun n => l.take n).foldl
    (fun t d => if (t.node? d).isSome then t else t.put d .directory) t

/-- The tree with a node at a place given from the directory `dir`; links on the way are followed
and directories made. -/
def create (t : FileTree) (dir : Location) (path : Path) (n : Node) : FileTree :=
  let parent := t.place dir path.parent
  match path.parts.getLast? with
  | some name => (t.makeDirectories parent).put (parent ++ [name]) n
  | none => t

/-- The names of what stands directly in a directory. -/
def children (t : FileTree) (l : Location) : List String :=
  t.filterMap fun e => if e.1.dropLast = l ∧ e.1 ≠ [] then e.1.getLast? else none

end FileTree

end CompilerRunner
