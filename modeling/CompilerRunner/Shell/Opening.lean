import CompilerRunner.Shell.Expansion

/-!
# Shell — Opening

Redirections carried out.  Their words are replaced first; then each takes effect, from left to
right, until one fails.
-/

namespace CompilerRunner.Shell

/-- Where an input or output is to lead. -/
inductive Opening where
  | write (path : String) (appends : Bool)
  | read (path : String)
  | copy (number : Nat)
  | nothing
  | closed
  | document (text : String)

namespace Opening

/-- What a redirection asks for, and for which input or output. -/
def ofRedirection (capture : Capture) : Redirection → Execution (Nat × Opening)
  | .write number path appends => return (number, .write (← expandText capture path) appends)
  | .read number path => return (number, .read (← expandText capture path))
  | .document number text => return (number, .document (← expandText capture text))
  | .copy number other => do
    let w ← expandText capture other
    match w.toList with
    | ['-'] => return (number, .closed)
    | [d] => if d.isDigit then return (number, .copy (d.toNat - '0'.toNat)) else senseless
    | _ => senseless
where
  /-- The word that should be a number is none. -/
  senseless : Execution (Nat × Opening) := do
    modify fun s => { s with builtin := none }
    Execution.refuse "Syntax error: Bad fd number"

/-- The paths that lead to inputs and outputs which are open already, or to nothing. -/
def devices : List (String × Opening) :=
  [("/dev/null", .nothing), ("/dev/stdin", .copy 0), ("/dev/stdout", .copy 1),
    ("/dev/stderr", .copy 2), ("/dev/fd/0", .copy 0), ("/dev/fd/1", .copy 1),
    ("/dev/fd/2", .copy 2)]

/-- Why the file at a path cannot be used; `absence` if nothing stands there. -/
def reason (absence : String) : PathFault → String
  | .notFound | .notDirectory | .containsNul => absence
  | .permissionDenied => "Permission denied"
  | .tooManyLinks => "Too many levels of symbolic links"
  | .tooLong => "File name too long"

/-- What is said about a file that cannot be read. -/
def unopened (path : String) (f : PathFault) : String :=
  "cannot open " ++ path ++ ": " ++ reason "No such file" f

/-- The place of the file that is to be written, or why it cannot be written.  It need not exist,
but its directory must. -/
def place (s : State) (path : String) : Except String Location :=
  match s.tree.find s.directory path with
  | .ok (_, .directory ..) => .error "Is a directory"
  | .ok (l, _) => .ok l
  | .error .notFound =>
    let name := (path.toList.reverse.takeWhile (· ≠ '/')).reverse
    let parent := String.ofList (path.toList.take (path.length - name.length))
    match s.tree.find s.directory (if parent = "" then "." else parent) with
    | .ok (l, .directory _ true) =>
      if path = "" then .error "Directory nonexistent"
      else if name = [] then .error "Is a directory"
      else .ok (l ++ [String.ofList name])
    | .ok (_, .directory _ false) => .error (reason "" .permissionDenied)
    | _ => .error "Directory nonexistent"
  | .error f => .error (reason "Directory nonexistent" f)

/-- The state in which an input or output leads to its new place, or what is said if it cannot. -/
def carriedOut (s : State) (number : Nat) (o : Opening) : Except String State :=
  match o with
  | .nothing => .ok (s.redirect number (some .nowhere))
  | .closed => .ok (s.redirect number none)
  | .copy other =>
    match s.handle? other with
    | some h => .ok (s.redirect number (some h))
    | none => .error (toString other ++ ": Bad file descriptor")
  | .document text => .ok (reading s (bytesOf text))
  | .read path =>
    match s.tree.find s.directory path with
    | .ok (_, .file content _ true) => .ok (reading s content)
    | .ok (_, .file _ _ false) | .ok (_, .directory false _) =>
      .error (unopened path .permissionDenied)
    | .ok _ => .ok (s.redirect number (some .nowhere))
    | .error f => .error (unopened path f)
  | .write path appends =>
    match place s path with
    | .error message => .error ("cannot create " ++ path ++ ": " ++ message)
    | .ok l =>
      let node : FileTree.Node :=
        match s.tree.node? l with
        | some (.file content executable readable) =>
          .file (if appends then content else []) executable readable
        | _ => .file [] false
      .ok ({ s with tree := s.tree.put l node }.redirect number (some (.file l)))
where
  /-- The state in which the input gives the bytes. -/
  reading (s : State) (bytes : List UInt8) : State :=
    let (s, n) := s.newSource bytes
    s.redirect number (some (.source n))

/-- The opening that a path of a device stands for. -/
def ofDevice (o : Opening) : Opening :=
  match o with
  | .write path _ | .read path => (devices.lookup path).getD o
  | o => o

end Opening

/-- Inputs and outputs are opened, each in its turn.  The answer is whether all of them could be. -/
def openAll : List (Nat × Opening) → Execution Bool
  | [] => return true
  | (number, o) :: rest => do
    match o.ofDevice.carriedOut (← get) number with
    | .ok s =>
      set s
      openAll rest
    | .error message =>
      Execution.complain message
      Execution.finish 2
      return false

end CompilerRunner.Shell
