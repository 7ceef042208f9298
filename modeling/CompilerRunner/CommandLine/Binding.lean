import CompilerRunner.CommandLine.Name
import CompilerRunner.CommandLine.Token
import CompilerRunner.CommandLine.Usage

/-!
# CommandLine — Binding

The words after a command's name, sorted into options and arguments.  Options are looked for before
the delimiter, in any place; a word that is no option there, or comes after the delimiter, is an
argument.  An option that can be repeated takes any word as its value.
-/

namespace CompilerRunner.CommandLine

/-- How an option takes what is given for it. -/
inductive OptionKind where
  | flag
  | single
  | repeatable
deriving DecidableEq

/-- An option that a command has. -/
structure Parameter where
  name : String
  kind : OptionKind
deriving DecidableEq

/-- What is given for an option: a text, a yes or a no, or that there is nothing. -/
inductive Given where
  | text (s : String)
  | state (on : Bool)
  | emptied
deriving DecidableEq

/-- What the mention of an option says already, or that a value has to follow. -/
inductive Mention where
  | needsValue
  | implies (g : Given)

/-- What is given on a command line, in order. -/
structure Bindings where
  options : List (String × Given)
  arguments : List String

/-- What a spelling says about an option, if it is one of the option. -/
def Parameter.mention? (p : Parameter) (spelling : String) : Option Mention :=
  match p.kind with
  | .flag =>
    if spelling = "--" ++ p.name then some (.implies (.state true))
    else if spelling = "--no-" ++ p.name then some (.implies (.state false))
    else none
  | .single => if spelling = "--" ++ p.name then some .needsValue else none
  | .repeatable =>
    if spelling = "--" ++ p.name then some .needsValue
    else if spelling = "--empty-" ++ p.name then some (.implies .emptied)
    else none

/-- The option that a spelling mentions.  An underscore stands for a hyphen. -/
def mentioned? (ps : List Parameter) (spelling : String) : Option (Parameter × Mention) :=
  let normal := String.ofList (spelling.toList.map fun c => if c = '_' then '-' else c)
  ps.findSome? fun p => (p.mention? normal).map fun m => (p, m)

/-- Yes or no, in words. -/
def truth? (text : String) : Option Bool :=
  let t := text.toLower
  if ["yes", "y", "1", "true", "t"].contains t then some true
  else if ["no", "n", "0", "false", "f"].contains t then some false
  else none

/-- What an option says that is denied: the opposite of a state, and nothing of an emptied one. -/
def Given.denied : Given → Option Given
  | .state on => some (.state !on)
  | .text _ | .emptied => none

/-- What the words give for options, and the words that are no options. -/
def readOptions (ps : List Parameter) (words : List String) : Except UsageFault Bindings :=
  match words with
  | [] => .ok ⟨[], []⟩
  | w :: rest =>
    let (spelling, value) := splitValue w
    match if w.toList.head? = some '-' then mentioned? ps spelling else none with
    | none => (fun b => { b with arguments := w :: b.arguments }) <$> readOptions ps rest
    | some (p, .implies g) => do
      let given ←
        match value with
        | none => .ok (some g)
        | some v =>
          match truth? v with
          | some true => .ok (some g)
          | some false => .ok g.denied
          | none => .error (.invalidValue p.name v)
      let b ← readOptions ps rest
      return { b with options := (given.map fun g => (p.name, g)).toList ++ b.options }
    | some (p, .needsValue) =>
      match value, rest with
      | some v, rest => do
        let b ← readOptions ps rest
        return { b with options := (p.name, .text v) :: b.options }
      | none, v :: rest =>
        if p.kind ≠ .repeatable ∧ isOptionLike v = true then .error (.missingValue p.name)
        else do
          let b ← readOptions ps rest
          return { b with options := (p.name, .text v) :: b.options }
      | none, [] => .error (.missingValue p.name)
termination_by words.length

/-- What is given for an option, in order. -/
def Bindings.givenFor (b : Bindings) (name : String) : List Given :=
  b.options.filterMap fun o => if o.1 = name then some o.2 else none

/-- The options that are given once only, although more than once they may not. -/
def Bindings.checkRepetition (b : Bindings) : List Parameter → Except UsageFault Unit
  | [] => .ok ()
  | p :: rest =>
    if p.kind ≠ .repeatable ∧ 1 < (b.givenFor p.name).length then .error (.repeated p.name)
    else b.checkRepetition rest

/-- The words after a command's name, for a command with the options `ps`. -/
def bind (ps : List Parameter) (words : List String) : Except UsageFault Bindings := do
  let (before, after) := splitAtDelimiter words
  let b ← readOptions ps before
  b.checkRepetition ps
  match b.arguments.find? isOptionLike with
  | some w => throw (.unknownOption w)
  | none => return { b with arguments := b.arguments ++ after }

/-- The text that is given for an option. -/
def Bindings.text? (b : Bindings) (name : String) : Option String :=
  match b.givenFor name with
  | .text s :: _ => some s
  | _ => none

/-- The state of a flag, which is off unless something else is given. -/
def Bindings.isOn (b : Bindings) (name : String) : Bool := b.givenFor name = [.state true]

/-- The texts that are given for an option that can be repeated.  It cannot be emptied and given
anything else. -/
def Bindings.texts (b : Bindings) (name : String) : Except UsageFault (List String) :=
  match b.givenFor name with
  | [.emptied] => .ok []
  | gs =>
    if gs.contains .emptied then .error (.contradictory name)
    else .ok (gs.filterMap fun
      | .text s => some s
      | _ => none)

/-- The choice from a list that a name stands for. -/
def choice? {α : Type} (choices : List (String × α)) (text : String) : Option α :=
  choices.lookup (Name.spelling text)

/-- The text says that there is no choice. -/
def isNoChoice (text : String) : Bool := ["none", "null"].contains text.toLower

/-- The choice that is given for an option, which may be none. -/
def Bindings.choice {α : Type} (b : Bindings) (name : String) (choices : List (String × α)) :
    Except UsageFault (Option α) :=
  match b.text? name with
  | none => .ok none
  | some text =>
    match choice? choices text with
    | some a => .ok (some a)
    | none =>
      if isNoChoice text then .ok none else .error (.invalidValue name text)

end CompilerRunner.CommandLine
