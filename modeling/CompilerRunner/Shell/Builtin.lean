import CompilerRunner.Process.Program
import CompilerRunner.Shell.Printing
import CompilerRunner.Shell.Quoting
import CompilerRunner.Shell.Setting
import CompilerRunner.Shell.Signal
import CompilerRunner.Shell.Test

/-!
# Shell — Builtin

The commands that the shell knows itself, apart from those that carry out other commands.
-/

namespace CompilerRunner.Shell

/-- Where a shell finds a command that it does not know itself. -/
def State.locate (s : State) (command : String) : Option String :=
  (Program.candidatesInShell s.assigned command).find? fun path =>
    match s.tree.find s.directory path with
    | .ok (_, .directory ..) => command.toList.contains '/'
    | .ok _ => true
    | .error _ => false

namespace Builtin

open Execution

/-- A number that an argument has to be. -/
def number (w : String) : Execution Nat :=
  match Decimal.readWhole? 10 w.toList with
  | some n => if n ≤ 2147483647 then return n else refuse ("Illegal number: " ++ w)
  | none => refuse ("Illegal number: " ++ w)

/-- A text between single quotes, as a command can be given it again. -/
def inQuotes (s : String) : String :=
  let pieces := Text.split '\'' s
  let quoted := pieces.map fun p => if p = "" then "" else "'" ++ p ++ "'"
  if s = "" then "''" else String.intercalate "\"'\"" quoted

/-- Options turned on or off. -/
def turn (on : Bool) (letters : List Char) : Execution Unit :=
  modify fun s => { s with
    options := Setting.letters.filter fun c =>
      if letters.contains c then on else s.options.contains c }

/-- Options and other arguments. -/
def configure : List String → Execution Unit
  | [] => do
    let s ← get
    (Text.sorted s.assigned.names).forM fun n =>
      print (n ++ "=" ++ inQuotes ((s.assigned.get? n).getD "") ++ "\n")
    finish 0
  | ws => options ws
where
  /-- The options in front and the arguments after them. -/
  options : List String → Execution Unit
    | [] => finish 0
    | "--" :: arguments => do
      modify fun s => { s with arguments }
      finish 0
    | "-o" :: name :: rest => named true name rest
    | "+o" :: name :: rest => named false name rest
    | w :: rest =>
      match w.toList with
      | ['-'] => options rest
      | '-' :: letters => lettered true letters rest
      | '+' :: letters => lettered false letters rest
      | _ => do
        modify fun s => { s with arguments := w :: rest }
        finish 0
  /-- An option by its long name. -/
  named (on : Bool) (name : String) (rest : List String) : Execution Unit :=
    match Setting.names.lookup name with
    | some c => do
      turn on [c]
      options rest
    | none => refuse ("Illegal option " ++ (if on then "-" else "+") ++ "o " ++ name)
  /-- Options by their letters. -/
  lettered (on : Bool) (letters : List Char) (rest : List String) : Execution Unit :=
    match letters.find? fun c => c ≠ 'o' && !Setting.letters.contains c with
    | some c => refuse ("Illegal option " ++ (if on then "-" else "+") ++ String.singleton c)
    | none => do
      turn on letters
      options rest

/-- The name in front of an equals sign, and the value behind it. -/
def definition (w : String) : String × Option String :=
  let name := w.toList.takeWhile (· ≠ '=')
  match w.toList.drop name.length with
  | _ :: value => (String.ofList name, some (String.ofList value))
  | [] => (w, none)

/-- Variables that get a value and a mark. -/
def mark (ws : List String) (put : String → State → State) : Execution Unit := do
  ws.forM fun w => do
    let (name, value) := definition w
    if !isName name then refuse (name ++ ": bad variable name")
    match value with
    | some v => assign name v
    | none => pure ()
    modify (put name)
  finish 0

/-- The marked variables, as commands. -/
def listMarked (command : String) (names : List String) : Execution Unit := do
  let s ← get
  (Text.sorted names.eraseDups).forM fun n =>
    print (command ++ " " ++ n ++ ((s.assigned.get? n).elim "" fun v => "=" ++ inQuotes v) ++ "\n")
  finish 0

/-- Variables that programs are to see. -/
def exportThem : List String → Execution Unit
  | [] => do listMarked "export" (← get).exported
  | "-p" :: _ => do listMarked "export" (← get).exported
  | ws =>
    mark (if ws.head? = some "--" then ws.drop 1 else ws)
      fun n s => { s with exported := n :: s.exported }

/-- Variables that keep their values. -/
def fixThem : List String → Execution Unit
  | [] => do listMarked "readonly" (← get).readOnly
  | "-p" :: _ => do listMarked "readonly" (← get).readOnly
  | ws => mark ws fun n s => { s with readOnly := n :: s.readOnly }

/-- Variables of the running function. -/
def local_ (ws : List String) : Execution Unit := do
  ws.forM fun w => do
    let (name, value) := definition w
    if !isName name then refuse (name ++ ": bad variable name")
    match (← get).outer with
    | [] => refuse "not in a function"
    | frame :: frames =>
      if (frame.get? name).isNone then
        modify fun s => { s with outer := frame.insert name (s.assigned.get? name) :: frames }
      match value with
      | some v => assign name v
      | none => pure ()
  if (← get).outer.isEmpty then refuse "not in a function"
  finish 0

/-- Variables and functions that are forgotten. -/
def unset (ws : List String) : Execution Unit :=
  match ws with
  | "-f" :: names => do
    modify fun s => { s with functions := names.foldl Table.erase s.functions }
    finish 0
  | "-v" :: names => forget names
  | w :: names =>
    if w.toList.head? = some '-' ∧ w ≠ "-" ∧ w ≠ "--" then
      refuse ("Illegal option -" ++ String.ofList ((w.toList.drop 1).take 1))
    else forget (if w = "--" then names else w :: names)
  | [] => finish 0
where
  /-- Variables that are forgotten. -/
  forget (names : List String) : Execution Unit := do
    names.forM fun n => do
      if !isName n then refuse (n ++ ": bad variable name")
      if (← get).readOnly.contains n then refuse (n ++ ": is read only")
      modify fun s => { s with
        assigned := s.assigned.erase n
        exported := s.exported.filter (· ≠ n) }
    finish 0

/-- The arguments without the first ones. -/
def shift (ws : List String) : Execution Unit := do
  let n ← match ws with
    | [] => pure 1
    | w :: _ => number w
  if (← get).arguments.length < n then refuse "can't shift that many"
  modify fun s => { s with arguments := s.arguments.drop n }
  finish 0

/-- Another working directory; that of `-` is the one before. -/
def changeDirectory (ws : List String) : Execution Unit := do
  let s ← get
  let ws := ws.filter fun w => !(["-L", "-P", "--"].contains w)
  let wanted : String :=
    match ws.head? with
    | some "-" => (s.assigned.get? "OLDPWD").getD ""
    | some w => w
    | none => (s.assigned.get? "HOME").getD ""
  if wanted = "" then finish 0
  else
    match s.tree.find s.directory wanted with
    | .ok (l, .directory _ true) =>
      let path := (Path.ofLocation l).text
      let before := (s.assigned.get? "PWD").getD (Path.ofLocation s.directory).text
      set { s with
        directory := l
        assigned := (s.assigned.insert "OLDPWD" before).insert "PWD" path }
      if ws.head? = some "-" then print (path ++ "\n")
      finish 0
    | _ => refuse ("can't cd to " ++ wanted)

/-- The working directory. -/
def printDirectory : Execution Unit := do
  print ((Path.ofLocation (← get).directory).text ++ "\n")
  finish 0

/-- Words on one line. -/
def echo (ws : List String) : Execution Unit := do
  write 1 (echoed ws)
  finish 0

/-- Words in a format. -/
def printf (ws : List String) : Execution Unit := do
  let ws := if ws.head? = some "--" then ws.drop 1 else ws
  match ws with
  | [] => refuse "usage: printf format [arg ...]"
  | format :: arguments =>
    if format.toList.head? = some '-' ∧ format ≠ "-" then
      refuse ("Illegal option -" ++ String.ofList ((format.toList.drop 1).take 1))
    let p := formatted format arguments
    write 1 p.bytes
    p.complaints.forM complain
    match p.fault with
    | some message => refuse message
    | none => finish (if p.complaints.isEmpty then 0 else 1)

/-- A test. -/
def test (ws : List String) : Execution Unit := do
  match Test.outcome (← get) ws with
  | .ok holds => finish (if holds then 0 else 1)
  | .error message => refuse message

/-- A test between square brackets. -/
def bracketTest (ws : List String) : Execution Unit :=
  if ws.getLast? = some "]" then test ws.dropLast else refuse "missing ]"

/-- A line of the input: its bytes, each with whether a backslash stood before it, the rest of the
input, and whether the line ended before the input did. -/
def inputLine (raw : Bool) : List UInt8 → List (UInt8 × Bool) × List UInt8 × Bool
  | [] => ([], [], false)
  | 10 :: rest => ([], rest, true)
  | 92 :: b :: rest =>
    if raw then
      let (line, after, ended) := inputLine raw (b :: rest)
      ((92, false) :: line, after, ended)
    else
      let (line, after, ended) := inputLine raw rest
      (if b = 10 then line else (b, true) :: line, after, ended)
  | b :: rest =>
    let (line, after, ended) := inputLine raw rest
    ((b, false) :: line, after, ended)

/-- The bytes of a line that stand for themselves and those that separate fields. -/
structure Separators where
  blanks : List UInt8
  marks : List UInt8

/-- The texts that a line gives to so many variables, the last of which gets the rest. -/
def lineFields (s : Separators) : (count : Nat) → List (UInt8 × Bool) → List (List UInt8)
  | 0, _ => []
  | count + 1, line =>
    let isBlank (e : UInt8 × Bool) : Bool := !e.2 && s.blanks.contains e.1
    let isMark (e : UInt8 × Bool) : Bool := !e.2 && s.marks.contains e.1
    let line := line.dropWhile isBlank
    let field := line.takeWhile fun e => !isBlank e && !isMark e
    let after := (line.drop field.length).dropWhile isBlank
    let next := if (after.head?.any isMark) = true then (after.drop 1).dropWhile isBlank else after
    if count = 0 ∧ next ≠ [] then
      [((line.reverse.dropWhile isBlank).reverse).map Prod.fst]
    else field.map Prod.fst :: lineFields s count next

/-- A line of the input, split into variables. -/
def read (ws : List String) : Execution Unit := do
  let (raw, names) ← options false ws
  if names.isEmpty then refuse "arg count"
  match names.find? fun n => !isName n with
  | some n => refuse (n ++ ": bad variable name")
  | none =>
    let s ← get
    let (line, rest, ended) := inputLine raw (s.input 0)
    let ifs := bytesOf ((s.assigned.get? "IFS").getD " \t\n")
    let (blanks, marks) := ifs.partition fun b => b = 32 || b = 9 || b = 10
    let fields := lineFields ⟨blanks, marks⟩ names.length (line.filter fun e => e.1 ≠ 0)
    modify (·.withInput 0 rest)
    (names.zip fields).forM fun e => assign e.1 (Text.Utf8.decodeStray e.2)
    finish (if ended then 0 else 1)
where
  /-- Whether backslashes are meant as they are, and the words after the options. -/
  options (raw : Bool) : List String → Execution (Bool × List String)
    | [] => return (raw, [])
    | "--" :: rest => return (raw, rest)
    | "-r" :: rest => options true rest
    | "-p" :: _ :: rest => options raw rest
    | w :: rest =>
      match w.toList with
      | '-' :: c :: _ => refuse ("Illegal option -" ++ String.singleton c)
      | _ => return (raw, w :: rest)

/-- How signals are sent. -/
def killUsage : String :=
  "Usage: kill [-s sigspec | -signum | -sigspec] [pid | job]... or\nkill -l [exitstatus]"

/-- A signal sent to processes, or the names of signals. -/
def kill (ws : List String) : Execution Unit :=
  match ws with
  | [] => refuse killUsage
  | ["-l"] => do
    print (String.join (("0" :: Signal.names).map (· ++ "\n")))
    finish 0
  | "-l" :: w :: _ => do
    let n ← number w
    match Signal.name? (if 128 < n then n - 128 else n) with
    | some name =>
      print (name ++ "\n")
      finish 0
    | none => refuse ("invalid signal number or exit status: " ++ w)
  | "-s" :: w :: processes =>
    match Signal.number? w with
    | some n => send n processes
    | none => refuse ("invalid signal number or name: " ++ w)
  | "--" :: processes => send 15 processes
  | w :: processes =>
    match w.toList with
    | '-' :: name =>
      match Signal.number? (String.ofList name), name with
      | some n, _ => send n processes
      | none, 's' :: rest =>
        match Signal.number? (String.ofList rest) with
        | some n => send n processes
        | none => refuse ("invalid signal number or name: " ++ String.ofList rest)
      | none, c :: _ => refuse ("Illegal option -" ++ String.singleton c)
      | none, [] => refuse killUsage
    | _ => send 15 (w :: processes)
where
  /-- A signal sent to processes. -/
  send (signal : Nat) (processes : List String) : Execution Unit := do
    let processes := if processes.head? = some "--" then processes.drop 1 else processes
    if processes.isEmpty then refuse killUsage
    finish 0
    processes.forM fun w => do
      let n ← number w
      let s ← get
      if n = s.number ∨ s.above.contains n then
        if signal ≠ 0 then modify fun s => { s with pending := s.pending ++ [(n, signal)] }
      else if s.jobs.any fun j => j.number = n && s.elapsed ≤ j.finish then
        if signal ≠ 0 then
          modify fun s => { s with
            jobs := s.jobs.map fun j =>
              if j.number = n then { j with status := 128 + signal, finish := s.elapsed } else j }
      else
        complain "No such process\n"
        finish 1

/-- What is carried out on signals. -/
def trap (ws : List String) : Execution Unit :=
  match if ws.head? = some "--" then ws.drop 1 else ws with
  | [] => do
    let actions := (← get).actions
    (List.range 65).forM fun n =>
      match actions.lookup n with
      | some a => print ("trap -- " ++ inQuotes a ++ " " ++ (Signal.name? n).getD "" ++ "\n")
      | none => pure ()
    finish 0
  | [signal] =>
    if signal.toList.head? = some '-' ∧ signal ≠ "-" then
      refuse ("Illegal option -" ++ String.ofList ((signal.toList.drop 1).take 1))
    else put none [signal]
  | action :: signals => put (if action = "-" then none else some action) signals
where
  /-- An action, or none, for signals. -/
  put (action : Option String) (signals : List String) : Execution Unit := do
    finish 0
    signals.forM fun w =>
      match Signal.number? w with
      | some n =>
        modify fun s => { s with
          actions := (action.map fun a => (n, a)).toList ++ s.actions.filter fun e => e.1 ≠ n }
      | none => do
        write 2 (bytesOf ("trap: " ++ w ++ ": bad trap\n"))
        finish 1

/-- Wait for the commands that run beside the shell, or for some of them. -/
def wait (ws : List String) : Execution Unit := do
  let jobs := (← get).jobs
  match ws with
  | [] =>
    modify fun s => { s with
      elapsed := jobs.foldl (fun t j => if t < j.finish then j.finish else t) s.elapsed }
    finish 0
  | ws => ws.forM fun w => do
    let n ← number w
    match jobs.find? fun j => j.number = n with
    | some j =>
      modify fun s => { s with elapsed := if s.elapsed < j.finish then j.finish else s.elapsed }
      finish j.status
    | none => finish 127

/-- The permissions that new files do not get. -/
def mask (ws : List String) : Execution Unit :=
  match ws with
  | [] => do
    let ds := Nat.toDigits 8 (← get).mask
    print (String.ofList (List.replicate (4 - ds.length) '0' ++ ds) ++ "\n")
    finish 0
  | w :: _ =>
    match Decimal.readWhole? 8 w.toList with
    | some mask => do
      modify fun s => { s with mask }
      finish 0
    | none => refuse ("Illegal number: " ++ w)

/-- What a reader of options has found. -/
structure Found where
  letter : Char
  value : Option String
  said : String := ""
  index : Nat
  offset : Option Nat

/-- The next option among the words, none if there is none; `index` counts the words from one, and
`offset` the letters of the word before that have been read. -/
def nextOption (letters : List Char) (words : List String) (index : Nat) (offset : Option Nat) :
    Option Found :=
  let quiet := letters.head? = some ':'
  let known := if quiet then letters.drop 1 else letters
  let before := if 1 < index then ((words[index - 2]?).getD "").toList else []
  let (rest, index) : Option (List Char) × Nat :=
    match offset.map before.drop with
    | some (c :: cs) => (some (c :: cs), index)
    | _ =>
      match ((words[index - 1]?).getD "").toList with
      | ['-', '-'] => (none, index + 1)
      | '-' :: c :: cs => (some (c :: cs), index + 1)
      | _ => (none, index)
  match rest with
  | none | some [] => none
  | some (c :: cs) =>
    let word := ((words[index - 2]?).getD "").toList
    let left (cs : List Char) : Option Nat :=
      if cs.isEmpty then none else some (word.length - cs.length)
    match known.dropWhile (· ≠ c) with
    | [] =>
      some { letter := '?', value := if quiet then some (String.singleton c) else none
             said := if quiet then "" else "Illegal option -" ++ String.singleton c ++ "\n"
             index, offset := left cs }
    | _ :: ':' :: _ =>
      if !cs.isEmpty then
        some { letter := c, value := some (String.ofList cs), index, offset := none }
      else
        match words[index - 1]? with
        | some w => some { letter := c, value := some w, index := index + 1, offset := none }
        | none =>
          some { letter := if quiet then ':' else '?'
                 value := if quiet then some (String.singleton c) else none
                 said := if quiet then "" else "No arg for -" ++ String.singleton c ++ " option\n"
                 index, offset := none }
    | _ => some { letter := c, value := some "", index, offset := left cs }

/-- The next option of the arguments. -/
def options (ws : List String) : Execution Unit := do
  match ws with
  | letters :: name :: given =>
    let s ← get
    let words := if given.isEmpty then s.arguments else given
    let index := ((s.assigned.get? "OPTIND").bind fun v => Decimal.readWhole? 10 v.toList).getD 1
    let index := if index = 0 ∨ words.length + 1 < index then 1 else index
    let offset := if s.optionIndex = index then s.optionOffset else none
    match nextOption letters.toList words index offset with
    | some f =>
      write 2 (bytesOf f.said)
      match f.value with
      | some v => assign "OPTARG" v
      | none => modify fun s => { s with assigned := s.assigned.erase "OPTARG" }
      assign "OPTIND" (toString f.index)
      assign name (String.singleton f.letter)
      modify fun s => { s with optionIndex := f.index, optionOffset := f.offset }
      finish 0
    | none =>
      let passed := if words[index - 1]? = some "--" then index + 1 else index
      assign "OPTIND" (toString passed)
      assign name "?"
      modify fun s => { s with optionIndex := passed, optionOffset := none }
      finish 1
  | _ => refuse "Usage: getopts optstring var [arg...]"

/-- The names of all builtin commands that are not special. -/
def names : List String :=
  ["[", "alias", "bg", "cd", "chdir", "command", "echo", "false", "fg", "getopts", "hash", "jobs",
    "kill", "printf", "pwd", "read", "test", "true", "type", "ulimit", "umask", "unalias", "wait"]

/-- What a name stands for as a command: in short, or as a sentence. -/
def about (s : State) (name : String) : Option (String × String) :=
  if reservedWords.contains name then some (name, name ++ " is a shell keyword")
  else if (s.functions.get? name).isSome then some (name, name ++ " is a shell function")
  else if specialBuiltins.contains name then some (name, name ++ " is a special shell builtin")
  else if names.contains name then some (name, name ++ " is a shell builtin")
  else (s.locate name).map fun path => (path, name ++ " is " ++ path)

/-- What names stand for as commands. -/
def describe (inShort : Bool) (ws : List String) : Execution Unit := do
  finish 0
  ws.forM fun w => do
    match about (← get) w with
    | some (short, long) => print ((if inShort then short else long) ++ "\n")
    | none =>
      if !inShort then print (w ++ ": not found\n")
      finish 127

/-- A message about each of the names, on the first output or on the second one, and a failure. -/
def missing (ws : List String) (message : String → String) : Execution Unit := do
  ws.forM fun w => write 2 (bytesOf (message w ++ "\n"))
  finish (if ws.isEmpty then 0 else 1)

/-- The builtin commands that carry out no other commands. -/
def plain? (command : String) (ws : List String) : Option (Execution Unit) :=
  match command with
  | ":" | "true" => some (finish 0)
  | "false" => some (finish 1)
  | "echo" => some (echo ws)
  | "printf" => some (printf ws)
  | "test" => some (test ws)
  | "[" => some (bracketTest ws)
  | "kill" => some (kill ws)
  | "trap" => some (trap ws)
  | "export" => some (exportThem ws)
  | "readonly" => some (fixThem ws)
  | "local" => some (local_ ws)
  | "unset" => some (unset ws)
  | "shift" => some (shift ws)
  | "set" => some (configure ws)
  | "cd" | "chdir" => some (changeDirectory ws)
  | "pwd" => some printDirectory
  | "read" => some (read ws)
  | "wait" => some (wait ws)
  | "umask" => some (mask ws)
  | "getopts" => some (options ws)
  | "type" => some (describe false ws)
  | "times" => some do
    print "0m0.00s 0m0.00s\n0m0.00s 0m0.00s\n"
    finish 0
  | "ulimit" => some do
    print "unlimited\n"
    finish 0
  | "jobs" | "alias" =>
    some (missing (if command = "alias" then ws.filter fun w => !w.toList.contains '=' else [])
      fun w => "alias: " ++ w ++ " not found")
  | "unalias" => some (missing (ws.filter (· ≠ "-a")) fun w => "unalias: " ++ w ++ " not found")
  | "hash" => some do
    let s ← get
    match ws.find? fun w => (about s w).isNone ∧ w ≠ "-r" with
    | some w =>
      complain (w ++ ": not found")
      finish 1
    | none => finish 0
  | "fg" | "bg" => some (refuse "No current job")
  | _ => none

end Builtin

end CompilerRunner.Shell
