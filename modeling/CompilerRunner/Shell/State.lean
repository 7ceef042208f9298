import CompilerRunner.Decimal.Reading
import CompilerRunner.FileTree
import CompilerRunner.Shell.Syntax
import CompilerRunner.Table
import CompilerRunner.Text.Utf8

/-!
# Shell — State

What a running shell knows, and computations that change it (`Execution`).  A computation may be
interrupted: by a jump out of a loop or function, by an error, by the end of the shell.
-/

namespace CompilerRunner

/-- How a process ends. -/
inductive Ending where
  | exited (code : Nat)
  | killed (signal : Nat)
deriving DecidableEq

/-- The status of a process in the eyes of the shell that waits for it. -/
def Ending.status : Ending → Nat
  | .exited code => code % 256
  | .killed signal => 128 + signal

namespace Shell

/-- The bytes of a text; what stands for no bytes at all is left out. -/
def bytesOf (s : String) : List UInt8 := (Text.Utf8.encodeStray? s).getD []

/-- The number of the first process. -/
def firstNumber : Nat := 4242

/-- What an open input or output leads to: bytes that are collected, bytes that are given, a file,
or nothing. -/
inductive Handle where
  | sink (n : Nat)
  | source (n : Nat)
  | file (place : Location)
  | nowhere
deriving DecidableEq

/-- A command that runs beside the shell: its number, its status at the end, and when it ends. -/
structure Job where
  number : Nat
  status : Nat
  finish : Float

/-- What a running shell knows.

* `assigned`: the values of the variables;
* `outer`: the values that local variables have outside the running functions, the last called
  first;
* `sinks`: what has been collected where, with the last byte first;
* `actions`: what is carried out on signals, number zero standing for the end of the shell;
* `pending`: the signals that have been sent, each with the process that it was sent to;
* `number`, `above`, `depth`: the number of the process, those of the processes that wait for it,
  and how many shells this one has split off from;
* `before`: the status before the action that is being carried out;
* `outputStatus`: the status of the last command whose output was taken;
* `elapsed`, `latest`: the seconds that have passed, and when the commands that
  run beside have written the last. -/
structure State where
  name : String
  arguments : List String
  assigned : Table String
  exported : List String
  readOnly : List String := []
  functions : Table Command := []
  outer : List (Table (Option String)) := []
  tree : FileTree
  directory : Location
  options : List Char := []
  handles : List (Nat × Handle) := [(0, .source 0), (1, .sink 0), (2, .sink 1)]
  sinks : List (Nat × List UInt8) := [(0, []), (1, [])]
  sources : List (Nat × List UInt8) := [(0, [])]
  actions : List (Nat × String) := []
  pending : List (Nat × Nat) := []
  jobs : List Job := []
  mask : Nat := 0o022
  optionIndex : Nat := 1
  optionOffset : Option Nat := none
  number : Nat := firstNumber
  above : List Nat := []
  depth : Nat := 0
  loops : Nat := 0
  line : Nat := 1
  builtin : Option String := none
  status : Nat := 0
  before : Option Nat := none
  outputStatus : Nat := 0
  elapsed : Float := 0
  latest : Float := 0

/-- What keeps a computation from going on: the end of the process, the end of the shell with its
status, an error that may end it, or a jump. -/
inductive Interruption where
  | ended (e : Ending)
  | exiting
  | failed
  | leaving (loops : Nat)
  | repeating (loops : Nat)
  | returning

/-- A computation of a shell. -/
abbrev Execution := ExceptT Interruption (StateM State)

namespace State

/-- The text between joined arguments: the first character of `IFS`. -/
def joiner (s : State) : String :=
  match s.assigned.get? "IFS" with
  | some ifs => String.ofList (ifs.toList.take 1)
  | none => " "

/-- The value of a parameter, none if it is not set. -/
def parameter? (s : State) (name : String) : Option String :=
  match name.toList with
  | ['@'] => if s.arguments.isEmpty then none else some (String.intercalate " " s.arguments)
  | ['*'] => if s.arguments.isEmpty then none else some (String.intercalate s.joiner s.arguments)
  | ['#'] => some (toString s.arguments.length)
  | ['?'] => some (toString s.status)
  | ['-'] => some (String.ofList s.options)
  | ['$'] => some (toString s.number)
  | ['!'] => s.jobs.head?.map fun j => toString j.number
  | c :: cs =>
    if c.isDigit then
      match Decimal.readWhole? 10 (c :: cs) with
      | some 0 => some s.name
      | some (n + 1) => s.arguments[n]?
      | none => none
    else s.assigned.get? name
  | [] => none

/-- The handle of an input or output. -/
def handle? (s : State) (number : Nat) : Option Handle := s.handles.lookup number

/-- The state with another handle for an input or output. -/
def redirect (s : State) (number : Nat) (h : Option Handle) : State :=
  let others := s.handles.filter fun e => e.1 ≠ number
  { s with handles := (h.map fun h => (number, h)).toList ++ others }

/-- The state with a new place to collect bytes, and its number. -/
def newSink (s : State) : State × Nat :=
  let n := s.sinks.length
  ({ s with sinks := s.sinks ++ [(n, [])] }, n)

/-- The state with bytes that can be read, and their number. -/
def newSource (s : State) (bytes : List UInt8) : State × Nat :=
  let n := s.sources.length
  ({ s with sources := s.sources ++ [(n, bytes)] }, n)

/-- What has been collected at a place. -/
def collected (s : State) (n : Nat) : List UInt8 := ((s.sinks.lookup n).getD []).reverse

/-- What an input still has to give. -/
def input (s : State) (number : Nat) : List UInt8 :=
  match s.handle? number with
  | some (.source n) => (s.sources.lookup n).getD []
  | _ => []

/-- The state after the input has been read up to the rest. -/
def withInput (s : State) (number : Nat) (rest : List UInt8) : State :=
  match s.handle? number with
  | some (.source n) =>
    { s with sources := s.sources.map fun e => if e.1 = n then (n, rest) else e }
  | _ => s

/-- The state with bytes written to where a handle leads. -/
def writeTo (s : State) (h : Option Handle) (bytes : List UInt8) : State :=
  match h with
  | some (.sink n) =>
    { s with sinks := s.sinks.map fun e => if e.1 = n then (n, bytes.reverse ++ e.2) else e }
  | some (.file l) =>
    match s.tree.node? l with
    | some (.file content executable readable) =>
      { s with tree := s.tree.put l (.file (content ++ bytes) executable readable) }
    | _ => s
  | _ => s

/-- The state with bytes written to an output. -/
def write (s : State) (number : Nat) (bytes : List UInt8) : State :=
  s.writeTo (s.handle? number) bytes

/-- The state with a complaint in the errors. -/
def complain (s : State) (message : String) : State :=
  let about := (s.builtin.map (· ++ ": ")).getD ""
  s.write 2 (bytesOf (s.name ++ ": " ++ toString s.line ++ ": " ++ about ++ message ++ "\n"))

end State

namespace Execution

/-- The status of the last command. -/
def finish (status : Nat) : Execution Unit := modify fun s => { s with status }

/-- Bytes written to an output. -/
def write (number : Nat) (bytes : List UInt8) : Execution Unit := modify (·.write number bytes)

/-- A text written to the first output. -/
def print (s : String) : Execution Unit := write 1 (bytesOf s)

/-- A complaint that stops nothing. -/
def complain (message : String) : Execution Unit := modify (·.complain message)

/-- A complaint about an error. -/
def refuse {α : Type} (message : String) : Execution α := do
  complain message
  finish 2
  throw .failed

/-- A variable gets a value. -/
def assign (name value : String) : Execution Unit := do
  if (← get).readOnly.contains name then refuse (name ++ ": is read only")
  modify fun s => { s with
    assigned := s.assigned.insert name value
    exported := if s.options.contains 'a' then name :: s.exported else s.exported }

/-- What runs in the place of an interruption of one kind. -/
def orElseOn {α : Type} (x : Execution α) (f : Interruption → Option (Execution α)) : Execution α :=
  tryCatch x fun i => (f i).getD (throw i)

end Execution

end Shell

end CompilerRunner
