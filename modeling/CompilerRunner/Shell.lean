import CompilerRunner.Process.Cat
import CompilerRunner.Process.Sleep
import CompilerRunner.Shell.Builtin
import CompilerRunner.Shell.Opening
import CompilerRunner.Shell.Reading
import CompilerRunner.Shell.Startup

/-!
# Shell

How a shell carries out commands.  A command ends with a status, and may interrupt what runs around
it; what a shell splits off runs to its end in a state of its own and leaves only its outputs, the
files and the time.  Nesting is bounded by fuel, and so are the turns of a loop: one that takes more
is taken to run for ever.
-/

namespace CompilerRunner

/-- What a process leaves: its two outputs, how it ended, the seconds it took, and those that passed
until nothing could be added to its outputs any more. -/
structure Finished where
  output : List UInt8
  errors : List UInt8
  ending : Ending
  elapsed : Float
  silent : Float

namespace Shell

namespace State

/-- The state of a shell after another one that has split off from it, or that it has waited for. -/
def after (outer inner : State) : State :=
  { outer with
    sinks := inner.sinks
    sources := inner.sources
    tree := inner.tree
    pending := inner.pending
    elapsed := inner.elapsed
    latest := inner.latest }

/-- The state of a shell that splits off: it passes over the same signals, but has no actions. -/
def split (s : State) : State :=
  { s with
    actions := s.actions.filter fun e => e.2 = ""
    jobs := []
    depth := s.depth + 1 }

/-- The variables that programs see. -/
def passed (s : State) : Table String := s.assigned.filter fun e => s.exported.contains e.1

/-- The state with variables as they are in another one. -/
def withVariablesOf (s other : State) (names : List String) : State :=
  names.foldl (fun s name =>
    { s with
      assigned := (other.assigned.get? name).elim (s.assigned.erase name)
        (s.assigned.insert name ·)
      exported := s.exported.filter (· ≠ name) ++
        if other.exported.contains name then [name] else [] }) s

/-- The state after a function, in which local variables have their old values. -/
def afterCall (before inner : State) : State :=
  let frame := inner.outer.head?.getD []
  { inner with
    arguments := before.arguments
    outer := before.outer
    loops := before.loops
    assigned := frame.foldl (fun t e => e.2.elim (t.erase e.1) (t.insert e.1 ·)) inner.assigned }

/-- The value of `PWD` in a new shell: as the environment has it, if it leads to the directory. -/
def startDirectory (t : FileTree) (directory : Location) (environment : Table String) : String :=
  let usual := (Path.ofLocation directory).text
  match environment.get? "PWD" with
  | none => usual
  | some p =>
    match (Path.ofText p).isAbsolute, t.locate directory p with
    | true, .ok l => if l = directory then p else usual
    | _, _ => usual

/-- The state of a new shell which another process waits for. -/
def ofShell (s : State) (environment : Table String) (options : List Char) (name : String)
    (arguments : List String) : State :=
  let given := environment.filter fun e => isName e.1
  let own : Table String :=
    [("IFS", " \t\n"), ("OPTIND", "1"), ("PPID", toString s.number),
      ("PS1", "$ "), ("PS2", "> "), ("PS4", "+ "),
      ("PWD", startDirectory s.tree s.directory environment)]
  { name, arguments, options
    assigned := Table.overlay (Table.overlay [("PATH", Program.usualSearchPath)] given) own
    exported := "PWD" :: Table.names given
    tree := s.tree
    directory := s.directory
    handles := s.handles
    sinks := s.sinks
    sources := s.sources
    actions := s.actions.filter fun e => e.2 = "" ∧ e.1 ≠ 0
    pending := s.pending
    mask := s.mask
    number := s.number + 1000
    above := s.number :: s.above
    elapsed := s.elapsed
    latest := s.latest }

end State

namespace Execution

/-- What interrupted a computation, if anything did. -/
def outcome (x : Execution Unit) : Execution (Option Interruption) :=
  tryCatch (x *> return none) fun i => return some i

/-- A computation after which, whatever its outcome, parts of the state are as they were. -/
def keeping {α : Type} (restore : (before after : State) → State) (x : Execution α) :
    Execution α := do
  let before ← get
  tryFinally x (modify (restore before))

/-- A computation that leaves inputs and outputs as they were. -/
def keepingHandles {α : Type} (x : Execution α) : Execution α :=
  keeping (fun before after => { after with handles := before.handles }) x

/-- A computation that does not end. -/
def endless {α : Type} : Execution α := do
  modify fun s => { s with elapsed := 1 / 0 }
  throw (.ended (.exited 0))

/-- The status of a process that the shell has waited for; a signal that has ended it may be worth a
word. -/
def report (e : Ending) : Execution Nat := do
  match e with
  | .killed n =>
    match Signal.epitaph? n with
    | some epitaph => write 2 (bytesOf (epitaph ++ "\n"))
    | none => pure ()
  | .exited _ => pure ()
  return e.status

/-- A shell to its end: unless a signal has ended it, the action for the end is carried out, with
which it can only change its status by asking for it. -/
def toEnd (act : String → Execution Unit) (x : Execution Unit) : Execution Ending := do
  if let some (.ended e) ← outcome x then return e
  let s ← get
  match s.actions.lookup 0 with
  | none => return .exited s.status
  | some action =>
    set { s with
      actions := s.actions.filter fun e => e.1 ≠ 0
      before := some s.status
      loops := 0 }
    match ← outcome (act action) with
    | some (.ended e) => return e
    | some .exiting | some .failed => return .exited (← get).status
    | _ => return .exited s.status

/-- A shell that splits off, to its end. -/
def apart (act : String → Execution Unit) (x : Execution Unit) : Execution Ending :=
  keeping State.after do
    modify State.split
    toEnd act x

/-- One turn of a loop: whether the loop goes on after it. -/
def turn (x : Execution Unit) : Execution Bool := do
  match ← outcome x with
  | none | some (.repeating 1) => return true
  | some (.leaving 1) => return false
  | some (.leaving (n + 2)) => throw (.leaving (n + 1))
  | some (.repeating (n + 2)) => throw (.repeating (n + 1))
  | some i => throw i

/-- Steps as long as they yield a status, which the next one gets. -/
def repeated (step : (last : Nat) → Execution (Option Nat)) : (turns last : Nat) → Execution Unit
  | 0, _ => endless
  | turns + 1, last => do
    match ← step last with
    | some status => repeated step turns status
    | none => return

/-- Steps over values until one of them ends it. -/
def through {α : Type} (step : α → Execution Bool) : List α → Execution Unit
  | [] => return
  | a :: as => do if ← step a then through step as

/-- Commands each of which reads what the one before has written.  They start at the same time. -/
def piped (carry : Command → Execution Ending) (start : Float) : List Command → Execution Unit
  | [] => return
  | [c] => do finish (← report (← carry c))
  | c :: rest => do
    let s ← get
    let (open_, n) := s.newSink
    set (open_.redirect 1 (some (.sink n)))
    let ending ← carry c
    let t ← get
    let (t, m) := { t with handles := s.handles, sinks := t.sinks.take n }.newSource (t.collected n)
    set ({ t with elapsed := start }.redirect 0 (some (.source m)))
    let _ ← report ending
    piped carry start rest
    modify fun u => { u with elapsed := if u.elapsed < t.elapsed then t.elapsed else u.elapsed }

/-- The commands of a script one after another; each is read when those before it have run. -/
def scripted (carry : Command → Execution Unit) : (turns : Nat) → Cursor → Execution Unit
  | 0, _ => return
  | turns + 1, c =>
    match c.nextCommand? with
    | .error fault => do
      modify fun s => { s with line := fault.line }
      refuse ("Syntax error: " ++ fault.message)
    | .ok (none, _) => return
    | .ok (some command, c) => do
      carry command
      scripted carry turns c

/-- The first case with a pattern that matches. -/
def chosen? (fits : Word → Execution Bool) :
    List (List Word × Option Command) → Execution (Option Command)
  | [] => return none
  | (patterns, body) :: rest => do if ← patterns.anyM fits then return body else chosen? fits rest

end Execution

/-- What a simple command is about once its words are known.  Behind `command` a function does not
hide a builtin, and an error in a builtin does not end the shell. -/
inductive Asked where
  | nothing
  | description (inShort : Bool) (names : List String)
  | senseless (option : Char)
  | command (plainly : Bool) (name : String) (arguments : List String)

/-- What words ask for; they may stand behind `command`, where options can come first. -/
def Asked.ofWords : (plainly options : Bool) → List String → Asked
  | _, _, [] => .nothing
  | plainly, options, w :: ws =>
    let named : Asked := if w = "command" then ofWords true true ws else .command plainly w ws
    match options, w.toList with
    | true, ['-', '-'] => ofWords plainly false ws
    | true, '-' :: c :: cs =>
      match (c :: cs).find? (· ≠ 'p') with
      | none => ofWords plainly true ws
      | some 'v' => .description true ws
      | some 'V' => .description false ws
      | some c => .senseless c
    | _, _ => named

/-- The command ends the shell if it fails, and what is assigned before it stays. -/
def Asked.isSpecial : Asked → Bool
  | .command false name _ => specialBuiltins.contains name
  | _ => false

/-- The command opens inputs and outputs for good. -/
def Asked.isOpening : Asked → Bool
  | .command _ "exec" [] => true
  | _ => false

/-- The words of a command.  Definitions of variables are not split. -/
def expandCommand (capture : Capture) (ws : List Word) : Execution (List String) := do
  let head ← expandWords capture (ws.take 1)
  if head.any ["export", "readonly", "local"].contains then
    let arguments ← (ws.drop 1).mapM fun w =>
      match Reader.assignment? w with
      | some (name, value) => do return [name ++ "=" ++ (← expandText capture value)]
      | none => expandWord capture w
    return head ++ arguments.flatten
  else return head ++ (← expandWords capture (ws.drop 1))

/-- Files written one after another, with a complaint about each that cannot be read; a hyphen
stands for the input. -/
def writeFiles (paths : List String) : Execution Ending := do
  Execution.finish 0
  (if paths.isEmpty then ["-"] else paths).forM fun path => do
    let s ← get
    if path = "-" then
      set (s.withInput 0 [])
      Execution.write 1 (s.input 0)
    else
      match Cat.content s.tree s.directory path with
      | .ok content => Execution.write 1 content
      | .error message =>
        Execution.write 2 (bytesOf (Cat.complaint path message))
        Execution.finish 1
  return .exited (← get).status

/-- Both outputs of the command lead elsewhere, so that it need not end before they do. -/
def isQuiet (c : Command) : Bool :=
  match c with
  | .simple _ _ _ redirections | .redirected _ redirections =>
    let numbers := redirections.map fun
      | .write number _ _ | .read number _ | .copy number _ | .document number _ => number
    numbers.contains 1 && numbers.contains 2
  | _ => false

/-- The action for a signal, and whether it has one. -/
def State.action? (s : State) (signal : Nat) : Option String :=
  if signal = 9 ∨ signal = 19 then none else s.actions.lookup signal

/-- The signals that make a process wait. -/
def stopping : List Nat := [19, 20, 21, 22]

/-- What is said about a program that cannot be started, and the status of the attempt. -/
def startComplaint (command : String) : ExecFault → String × Nat
  | .notFound | .notDirectory => (command ++ ": not found", 127)
  | _ => (command ++ ": Permission denied", 126)

/-- How many functions may run inside one another. -/
def callLimit : Nat := 1000

/-- How many turns a loop may take. -/
def patience : Nat := 100000

mutual

/-- A command carried out.  If its failure is tested by another command, it does not end the
shell. -/
def run : (fuel : Nat) → (tested : Bool) → Command → Execution Unit
  | 0, _, _ => Execution.endless
  | fuel + 1, tested, c => do
    if (← get).elapsed.isInf then Execution.endless
    let act := runText fuel false
    let check : Execution Unit := do
      let s ← get
      if !tested ∧ s.options.contains 'e' ∧ s.status ≠ 0 then throw .exiting
    let looped (x : Execution Unit) : Execution Unit := do
      Execution.keeping (fun before after => { after with loops := before.loops }) do
        modify fun s => { s with loops := s.loops + 1 }
        x
    match c with
    | .simple line assignments words redirections =>
      simple fuel tested line assignments words redirections
      check
    | .sequence first second =>
      run fuel tested first
      run fuel tested second
    | .both first second =>
      run fuel true first
      if (← get).status = 0 then run fuel tested second
    | .either first second =>
      run fuel true first
      if (← get).status ≠ 0 then run fuel tested second
    | .negation c =>
      run fuel true c
      Execution.finish (if (← get).status = 0 then 1 else 0)
    | .pipeline cs =>
      let start := (← get).elapsed
      Execution.keepingHandles
        (Execution.piped (fun c => Execution.apart act (run fuel false c)) start cs)
      check
    | .background c =>
      let s ← get
      set (s.redirect 0 (some .nowhere))
      let ending ← Execution.apart act (run fuel false c)
      modify fun t => { t with
        handles := s.handles
        jobs := ⟨s.number + 1 + s.jobs.length, ending.status, t.elapsed⟩ :: s.jobs
        latest := if t.latest < t.elapsed ∧ !isQuiet c then t.elapsed else t.latest
        elapsed := s.elapsed
        status := 0 }
    | .redirected c redirections =>
      let openings ← redirections.mapM (Opening.ofRedirection (capture fuel))
      Execution.keepingHandles do
        if ← openAll openings then run fuel tested c
      check
    | .subshell line c =>
      modify fun s => { s with line }
      Execution.finish (← Execution.report (← Execution.apart act (run fuel false c)))
      check
    | .loop stopsWhen condition body =>
      looped <| Execution.repeated (fun last => do
        let goesOn ← Execution.turn do
          run fuel true condition
          let s ← get
          if (s.status = 0) ≠ stopsWhen then run fuel tested body
          else
            Execution.finish last
            throw (.leaving 1)
        if goesOn then return some (← get).status else return none) patience 0
    | .each line name words body =>
      modify fun s => { s with line }
      let values ← match words with
        | some ws => expandWords (capture fuel) ws
        | none => pure (← get).arguments
      if values.isEmpty then Execution.finish 0
      looped <| Execution.through (fun v => do
        Execution.assign name v
        Execution.turn (run fuel tested body)) values
    | .branch condition yes no =>
      run fuel true condition
      if (← get).status = 0 then run fuel tested yes
      else
        match no with
        | some c => run fuel tested c
        | none => Execution.finish 0
    | .choice line subject cases =>
      modify fun s => { s with line }
      let text ← expandText (capture fuel) subject
      let fits (w : Word) : Execution Bool := do
        return (← expandPattern (capture fuel) w).accepts (bytesOf text)
      match ← Execution.chosen? fits cases with
      | some c => run fuel tested c
      | none => Execution.finish 0
    | .definition name body =>
      modify fun s => { s with functions := s.functions.insert name body, status := 0 }
    heed fuel

/-- Signals that have been sent to the shell. -/
def heed : (fuel : Nat) → Execution Unit
  | 0 => return
  | fuel + 1 => do
    let s ← get
    match s.pending.find? fun e => s.depth = 0 ∧ e.1 = s.number with
    | none => return
    | some (process, signal) =>
      set { s with pending := s.pending.erase (process, signal) }
      match s.action? signal with
      | some action =>
        modify fun s => { s with before := some s.status }
        runText fuel false action
        modify fun t => { t with status := s.status, before := s.before }
      | none =>
        if stopping.contains signal then Execution.endless
        if !Signal.harmless.contains signal then throw (.ended (.killed signal))
      heed fuel

/-- A text carried out as a script. -/
def runText : (fuel : Nat) → (tested : Bool) → String → Execution Unit
  | 0, _, _ => Execution.endless
  | fuel + 1, tested, text =>
    Execution.scripted (run fuel tested) (text.length + 1) { rest := text.toList }

/-- The output of a command, without the line ends at its end. -/
def capture : (fuel : Nat) → Command → Execution String
  | 0, _ => Execution.endless
  | fuel + 1, c => do
    let s ← get
    let (open_, n) := s.newSink
    set (open_.redirect 1 (some (.sink n)))
    let ending ← Execution.apart (runText fuel false) (run fuel false c)
    let bytes := (← get).collected n
    modify fun t => { t with
      handles := s.handles
      sinks := t.sinks.take n
      elapsed := if t.elapsed < t.latest then t.latest else t.elapsed }
    let outputStatus ← Execution.report ending
    modify fun t => { t with outputStatus }
    let kept := (bytes.filter (· ≠ 0)).reverse.dropWhile (· = 10)
    return Text.Utf8.decodeStray kept.reverse

/-- A simple command: its words are replaced, then inputs and outputs opened, then values assigned.
Without a command, the status is that of the last output taken. -/
def simple : (fuel : Nat) → (tested : Bool) → (line : Nat) → List (String × Word) → List Word →
    List Redirection → Execution Unit
  | 0, _, _, _, _, _ => Execution.endless
  | fuel + 1, tested, line, assignments, words, redirections => do
    modify fun s => { s with line, outputStatus := 0 }
    let fields ← expandCommand (capture fuel) words
    let asked := Asked.ofWords false false fields
    let openings ← redirections.mapM (Opening.ofRedirection (capture fuel))
    let errors := (← get).handle? 2
    let body : Execution Unit := do
      if !(← openAll openings) then
        if asked.isSpecial then throw .failed
      else
        let names := assignments.map Prod.fst
        let passes := !fields.isEmpty && !asked.isSpecial
        Execution.keeping (fun before t => if passes then t.withVariablesOf before names else t) do
          let values ← assignments.mapM fun (name, value) => do
            let v ← expandText (capture fuel) value
            Execution.assign name v
            if passes then modify fun s => { s with exported := name :: s.exported }
            return name ++ "=" ++ v
          if (← get).options.contains 'x' then
            let traced := "+ " ++ String.intercalate " " (values ++ fields) ++ "\n"
            modify fun s => s.writeTo errors (bytesOf traced)
          if fields.isEmpty then Execution.finish (← get).outputStatus
          else carryOut fuel tested asked
    if asked.isOpening then body else Execution.keepingHandles body

/-- What a simple command asks for.  A function comes before a builtin, and a program comes last. -/
def carryOut : (fuel : Nat) → (tested : Bool) → Asked → Execution Unit
  | 0, _, _ => Execution.endless
  | fuel + 1, tested, asked => do
    let s ← get
    match asked with
    | .nothing => Execution.finish 0
    | .description inShort names => Builtin.describe inShort (names.take 1)
    | .senseless option => builtin fuel tested false "command" [String.singleton option]
    | .command plainly name arguments =>
      match if plainly then none else s.functions.get? name with
      | some body =>
        if callLimit ≤ s.outer.length then
          Execution.refuse
            ("Maximum function recursion depth (" ++ toString callLimit ++ ") reached")
        Execution.keeping State.afterCall do
          set { s with arguments, outer := [] :: s.outer, loops := 0 }
          Execution.orElseOn (run fuel tested body) fun
            | .returning => some (return)
            | _ => none
      | none =>
        if specialBuiltins.contains name || Builtin.names.contains name then
          builtin fuel tested (!plainly && specialBuiltins.contains name) name arguments
        else
          let words := name :: arguments
          match Program.searchInShell s.tree s.directory s.assigned s.passed words with
          | .ok image =>
            Execution.finish (← Execution.report (← launch fuel s.passed image))
          | .error f =>
            let (message, status) := startComplaint name f
            Execution.complain message
            Execution.finish status

/-- A builtin command; an error in a special one ends the shell. -/
def builtin : (fuel : Nat) → (tested isSpecial : Bool) → (name : String) → List String →
    Execution Unit
  | 0, _, _, _, _ => Execution.endless
  | fuel + 1, tested, isSpecial, name, arguments => do
    let s ← get
    let x : Execution Unit :=
      Execution.keeping (fun before after => { after with builtin := before.builtin }) do
        modify fun s => { s with builtin := some name }
        match name, arguments with
        | "command", option :: _ => Execution.refuse ("Illegal option -" ++ option)
        | "exit", [] =>
          Execution.finish (s.before.getD s.status)
          throw .exiting
        | "exit", w :: _ =>
          Execution.finish (← Builtin.number w)
          throw .exiting
        | "return", [] => throw .returning
        | "return", w :: _ =>
          Execution.finish (← Builtin.number w)
          throw .returning
        | "break", ws | "continue", ws =>
          let n ← match ws with
            | [] => pure 1
            | w :: _ => Builtin.number w
          if n = 0 then Execution.refuse ("Illegal number: " ++ ws.head?.getD "")
          Execution.finish 0
          let loops := if s.loops < n then s.loops else n
          if loops ≠ 0 then
            throw (if name = "break" then .leaving loops else .repeating loops)
        | "eval", ws =>
          let text := String.intercalate " " ws
          if text.toList.all isSeparating then Execution.finish 0
          runText fuel tested text
        | ".", [] => Execution.finish 0
        | ".", file :: _ =>
          let path := if file.toList.contains '/' then some file else s.locate file
          match path.map fun p => (p, s.tree.find s.directory p) with
          | none => Execution.refuse (file ++ ": not found")
          | some (p, .ok (_, .file content _ true)) =>
            modify fun s => { s with builtin := some p, status := 0 }
            Execution.orElseOn (runText fuel tested (Text.Utf8.decodeStray content)) fun
              | .returning => some (return)
              | _ => none
          | some (p, .ok (_, .file _ _ false)) | some (p, .ok (_, .directory false _)) =>
            Execution.refuse (Opening.unopened p .permissionDenied)
          | some (p, .error f) => Execution.refuse (Opening.unopened p f)
          | some (_, .ok _) => Execution.finish 0
        | "exec", [] => Execution.finish 0
        | "exec", words =>
          match Program.searchInShell s.tree s.directory s.assigned s.passed words with
          | .ok image => throw (.ended (← launch fuel s.passed image))
          | .error f =>
            let (message, status) := startComplaint (words.head?.getD "") f
            Execution.complain message
            Execution.finish status
            throw .exiting
        | _, ws => (Builtin.plain? name ws).getD (Execution.finish 127)
    if isSpecial then x
    else
      Execution.orElseOn x fun
        | .failed => some (return)
        | _ => none

/-- A program from its start to its end. -/
def launch : (fuel : Nat) → Table String → Image → Execution Ending
  | 0, _, _ => Execution.endless
  | fuel + 1, environment, image => do
    let own := image.arguments.head?.getD ""
    let arguments := image.arguments.drop 1
    let scripted (options : List Char) (name : String) (arguments : List String) (text : String) :
        Execution Ending :=
      Execution.keeping State.after do
        modify fun s => s.ofShell environment options name arguments
        Execution.toEnd (runText fuel false) (runText fuel false text)
    match image.program with
    | .cat => Execution.keeping State.after (writeFiles arguments)
    | .sleep =>
      match Sleep.duration? arguments with
      | some d =>
        modify fun s => { s with elapsed := s.elapsed + d }
        return .exited 0
      | none =>
        Execution.write 2 (bytesOf (Sleep.complaint arguments))
        return .exited 1
    | .shell =>
      match Startup.ofArguments own arguments with
      | .script options name arguments text => scripted options name arguments text
      | .file options path arguments =>
        let s ← get
        let unopened (f : PathFault) : Execution Ending := do
          Execution.write 2 (bytesOf (own ++ ": 0: " ++ Opening.unopened path f ++ "\n"))
          return .exited 2
        match s.tree.find s.directory path with
        | .ok (_, .file content _ true) =>
          scripted options path arguments (Text.Utf8.decodeStray content)
        | .ok (_, .file _ _ false) | .ok (_, .directory false _) => unopened .permissionDenied
        | .ok _ => return .exited 0
        | .error f => unopened f
      | .input options arguments =>
        let script := (← get).input 0
        modify (·.withInput 0 [])
        scripted options own arguments (Text.Utf8.decodeStray script)
      | .refused complaint =>
        Execution.write 2 (bytesOf complaint)
        return .exited 2

end

/-- How deeply commands may be nested. -/
def depthLimit : Nat := 20000

/-- A program carried out, with the files and variables that it finds. -/
def execute (tree : FileTree) (directory : Location) (environment : Table String)
    (image : Image) : Finished :=
  let start : State :=
    { name := "", arguments := [], assigned := environment, exported := [], tree, directory }
  let (r, s) := (launch depthLimit environment image).run.run start
  { output := s.collected 0
    errors := s.collected 1
    ending :=
      match r with
      | .ok e | .error (.ended e) => e
      | .error _ => .exited s.status
    elapsed := s.elapsed
    silent := if s.elapsed < s.latest then s.latest else s.elapsed }

end Shell

end CompilerRunner
