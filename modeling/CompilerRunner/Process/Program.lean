import CompilerRunner.FileTree
import CompilerRunner.Table
import CompilerRunner.Text.Utf8

/-!
# Process — Program

Which program a command starts.  A command without a slash is looked for in the directories of
`PATH`; the first file that can be run is taken.  A script names its interpreter in its first line,
and the interpreter is started with the script as its argument.  The limits are those of the system:
one argument is at most `argumentLimit` bytes, all of them `totalLimit`.
-/

namespace CompilerRunner

/-- Why the system does not run a file. -/
inductive ExecFault where
  | notFound
  | notDirectory
  | permissionDenied
  | noInterpreter
  | unsupported
deriving DecidableEq

/-- A program of the system with its arguments, the first of which is its name. -/
structure Image where
  program : SystemProgram
  arguments : List String

namespace Program

/-- The longest argument, with the byte that ends it. -/
def argumentLimit : Nat := 131072

/-- All arguments together. -/
def totalLimit : Nat := 2097152

/-- The bytes that a text takes among the arguments. -/
def size (s : String) : Nat := ((Text.Utf8.encodeStray? s).getD []).length + 1

/-- The arguments and variables fit into the memory of a process. -/
def fits (strings : List String) : Bool :=
  strings.all (fun s => size s ≤ argumentLimit) &&
    strings.foldl (fun total s => total + size s + 8) 0 ≤ totalLimit

/-- A blank in the line that names an interpreter. -/
def isBlankByte (b : UInt8) : Bool := b = 32 || b = 9

/-- How many bytes of a file the system looks at to see how it is run. -/
def leadLimit : Nat := 256

/-- The bytes that the system looks at; a shorter file is followed by zeros. -/
def lead (content : List UInt8) : List UInt8 :=
  (content ++ List.replicate leadLimit 0).take leadLimit

/-- A byte that ends the name of an interpreter. -/
def isTerminator (b : UInt8) : Bool := isBlankByte b || b = 0

/-- The line that names an interpreter, from the bytes after its mark: up to the line's end, or all
but the last byte if that end is not among them.  Without an end there is no line unless a name has
begun and its own end is seen, so that it is not the start of a longer one. -/
def line? (bytes : List UInt8) : Option (List UInt8) :=
  let text := bytes.takeWhile (· ≠ 0)
  if text.contains 10 then some (text.takeWhile (· ≠ 10))
  else if (bytes.dropWhile isBlankByte).any isTerminator then some bytes.dropLast
  else none

/-- The interpreter that the first line of a file names, with one argument at most, which is all
that follows the name in the line.  A zero ends either of them, and no argument follows a name that
a zero ends. -/
def interpreter? (content : List UInt8) : Option (List String) :=
  match lead content with
  | 35 :: 33 :: rest => do
    let line := (← line? rest).dropWhile isBlankByte
    let line := (line.reverse.dropWhile isBlankByte).reverse
    let name := line.takeWhile fun b => !isTerminator b
    let after := line.drop name.length
    let argument := (after.dropWhile isBlankByte).takeWhile (· ≠ 0)
    if line = [] then none
    else
      some (Text.Utf8.decodeStray name ::
        if after.head?.any isBlankByte then [Text.Utf8.decodeStray argument] else [])
  | _ => none

/-- A path that leads nowhere, as the reason not to run a file. -/
def faultOf : PathFault → ExecFault
  | .notFound => .notFound
  | .notDirectory => .notDirectory
  | .permissionDenied => .permissionDenied
  | .tooManyLinks | .tooLong | .containsNul => .unsupported

/-- The path that an interpreter is looked for at: an empty name is the working directory. -/
def interpreterPath (name : String) : String := if name = "" then "." else name

/-- The program that the file at a path is run by; `scripts` more interpreters may be scripts. -/
def load (t : FileTree) (directory : Location) (environment : List String) :
    (scripts : Nat) → (path : String) → (arguments : List String) → Except ExecFault Image
  | scripts, path, arguments =>
    match t.find directory path with
    | .error f => .error (faultOf f)
    | .ok (_, .directory ..) | .ok (_, .link _) | .ok (_, .file _ false _) =>
      .error .permissionDenied
    | .ok (_, .program kind) =>
      if fits (arguments ++ environment) then .ok ⟨kind, arguments⟩ else .error .unsupported
    | .ok (_, .file content true _) =>
      match interpreter? content, scripts with
      | none, _ | some [], _ => .error .noInterpreter
      | some _, 0 => .error .unsupported
      | some (interpreter :: options), scripts + 1 =>
        if fits (arguments ++ environment) then
          load t directory environment scripts (interpreterPath interpreter)
            (interpreter :: options ++ path :: arguments.drop 1)
        else .error .unsupported

/-- The most interpreters that may be scripts themselves. -/
def scriptLimit : Nat := 5

/-- The directories that are searched if the environment does not say. -/
def defaultSearchPath : String := "/bin:/usr/bin"

/-- The directories that a shell searches if the environment does not say. -/
def usualSearchPath : String :=
  "/usr/local/sbin:/usr/local/bin:/usr/sbin:/usr/bin:/sbin:/bin"

/-- The path of a command in a directory of the search path. -/
def pathIn (directory command : String) : String :=
  if directory = "" ∨ directory.toList.getLast? = some '/' then directory ++ command
  else directory ++ "/" ++ command

/-- The path of a command in a directory of the search path as a shell writes it, which adds a slash
to one that ends in a slash too. -/
def pathInShell (directory command : String) : String :=
  if directory = "" then command else directory ++ "/" ++ command

/-- The paths that a command may mean, in the order in which they are tried, given how it is written
in a directory. -/
def candidatesBy (within : String → String → String) (environment : Table String)
    (command : String) : List String :=
  if command.toList.contains '/' then [command]
  else
    (Text.split ':' ((environment.get? "PATH").getD defaultSearchPath)).map fun d =>
      within d command

/-- The paths that a command may mean. -/
def candidates : Table String → String → List String := candidatesBy pathIn

/-- The paths that a command may mean to a shell. -/
def candidatesInShell : Table String → String → List String := candidatesBy pathInShell

/-- The fault is no reason to stop a search. -/
def ExecFault.isAbsence : ExecFault → Bool
  | .notFound | .notDirectory => true
  | _ => false

/-- The first success.  If there is none, the first fault that is more than an absence, or else the
last one. -/
def firstOf : (first : Option ExecFault) → (last : ExecFault) → List (Except ExecFault Image) →
    Except ExecFault Image
  | first, last, [] => .error (first.getD last)
  | _, _, .ok image :: _ => .ok image
  | first, _, .error f :: rest =>
    firstOf (if ExecFault.isAbsence f then first else first.or (some f)) f rest

/-- The variables as they are handed to a program. -/
def strings (environment : Table String) : List String :=
  environment.map fun e => e.1 ++ "=" ++ e.2

/-- The program that a command starts. -/
def search (t : FileTree) (directory : Location) (environment : Table String)
    (arguments : List String) : Except ExecFault Image :=
  firstOf none .notFound <|
    (candidates environment (arguments.head?.getD "")).map fun path =>
      load t directory (strings environment) scriptLimit path arguments

/-- The shell that carries out a script without an interpreter. -/
def usualShell : String := "/bin/sh"

/-- The program that a command starts when a shell starts it with the variables `passed`: to a
shell, a file that names no interpreter is a script. -/
def searchInShell (t : FileTree) (directory : Location) (assigned passed : Table String)
    (arguments : List String) : Except ExecFault Image :=
  let start := load t directory (strings passed) scriptLimit
  firstOf none .notFound <|
    (candidatesInShell assigned (arguments.head?.getD "")).map fun path =>
      match start path arguments with
      | .error .noInterpreter => start usualShell (usualShell :: path :: arguments.drop 1)
      | r => r

end Program

end CompilerRunner
