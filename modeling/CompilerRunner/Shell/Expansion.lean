import CompilerRunner.Shell.Arithmetic
import CompilerRunner.Shell.Pattern
import CompilerRunner.Value.Literal

/-!
# Shell — Expansion

What words stand for.  A parameter is replaced by its value; outside quotes the value is split into
several fields at the characters of `IFS`, and a field that is a pattern is replaced by the names of
the files that it matches.  `"$@"` gives one field for each argument, none if there is none.
-/

namespace CompilerRunner.Shell

/-- A piece of what a word stands for: a character, which may be quoted and may split fields, the
quotes around what may be empty, or the end of a field. -/
inductive Piece where
  | character (c : Char) (quoted splits : Bool)
  | quotes
  | boundary

/-- The pieces of a value: it splits fields unless it is quoted. -/
def valuePieces (quoted : Bool) (s : String) : List Piece :=
  s.toList.map fun c => .character c quoted !quoted

/-- The pieces of several values, each in a field of its own. -/
def eachPieces (quoted : Bool) (ss : List String) : List Piece :=
  let one (s : String) : List Piece :=
    if quoted then .quotes :: valuePieces true s else valuePieces false s
  List.intercalate [.boundary] (ss.map one)

/-- The characters of pieces, with their quotation. -/
def markedOf (ps : List Piece) : Marked :=
  ps.filterMap fun
    | .character c quoted _ => some (c, quoted)
    | .quotes => none
    | .boundary => some (' ', true)

/-- The text of pieces. -/
def textOf (ps : List Piece) : String := Pattern.plain (markedOf ps)

/-- Where the splitting of fields stands: no field has begun, and a blank may have ended the last
one; or a field is being made, its last character first. -/
inductive Splitting where
  | between (afterBlank : Bool)
  | inside (field : Marked)

/-- The fields that pieces make up. -/
def fieldsFrom (ifs : List Char) : Splitting → List Piece → List Marked
  | .between _, [] => []
  | .inside f, [] => [f.reverse]
  | .between _, .boundary :: rest => fieldsFrom ifs (.between false) rest
  | .inside f, .boundary :: rest => f.reverse :: fieldsFrom ifs (.between false) rest
  | .between _, .quotes :: rest => fieldsFrom ifs (.inside []) rest
  | .inside f, .quotes :: rest => fieldsFrom ifs (.inside f) rest
  | s, .character c quoted splits :: rest =>
    if splits && ifs.contains c then
      match s, isSeparating c with
      | .between afterBlank, true => fieldsFrom ifs (.between afterBlank) rest
      | .between true, false => fieldsFrom ifs (.between false) rest
      | .between false, false => [] :: fieldsFrom ifs (.between false) rest
      | .inside f, blank => f.reverse :: fieldsFrom ifs (.between blank) rest
    else
      match s with
      | .between _ => fieldsFrom ifs (.inside [(c, quoted)]) rest
      | .inside f => fieldsFrom ifs (.inside ((c, quoted) :: f)) rest

/-- The fields of pieces in a state. -/
def State.fields (s : State) (ps : List Piece) : List Marked :=
  fieldsFrom (((s.assigned.get? "IFS").getD " \t\n").toList) (.between false) ps

/-- How the output of a command is taken. -/
abbrev Capture := Command → Execution String

/-- The home directory in the place of a tilde at the start of a word. -/
def withHome (s : State) (w : Word) : Word :=
  match w with
  | .text t false :: rest =>
    match t.toList, rest with
    | ['~'], [] => home w
    | '~' :: '/' :: after, _ => home (.text (String.ofList ('/' :: after)) false :: rest)
    | _, _ => w
  | _ => w
where
  /-- The home directory in front of a word, if there is one. -/
  home (rest : Word) : Word :=
    match s.assigned.get? "HOME" with
    | none => w
    | some h =>
      .quotes :: .text h true ::
        match rest with
        | [.text "~" false] => []
        | rest => rest

/-- Some parameters are no variables, and always have a value. -/
def State.value? (s : State) (name : String) : Execution (Option String) :=
  match s.parameter? name with
  | some v => return some v
  | none =>
    if s.options.contains 'u' ∧ name ≠ "@" ∧ name ≠ "*" then
      Execution.refuse (name ++ ": parameter not set")
    else return none

/-- The pieces of a parameter that is used as it is. -/
def parameterPieces (name : String) (quoted : Bool) : Execution (List Piece) := do
  let s ← get
  if name = "@" ∨ (name = "*" ∧ quoted = false) then return eachPieces quoted s.arguments
  else return valuePieces quoted ((← s.value? name).getD "")

/-- The pieces that the parts of a word stand for.  Unquoted text splits fields if it stands for a
parameter. -/
def piecesOf (capture : Capture) : (fuel : Nat) → (splits : Bool) → Word → Execution (List Piece)
  | 0, _, _ => return []
  | fuel + 1, splits, w => do
    let each ← w.mapM fun part : Part => do
      match part with
      | .text s quoted => return s.toList.map fun c => Piece.character c quoted (splits && !quoted)
      | .quotes => return [.quotes]
      | .output c quoted => return valuePieces quoted (← capture c)
      | .arithmetic e =>
        let text := textOf (← piecesOf capture fuel false e)
        match Arithmetic.evaluate (← get).assigned text with
        | .error message => Execution.refuse message
        | .ok (n, assigned) =>
          modify fun s => { s with assigned }
          return valuePieces false (toString n)
      | .parameter name use quoted =>
        let s ← get
        match use with
        | .value => parameterPieces name quoted
        | .length =>
          return valuePieces quoted (toString (bytesOf ((← s.value? name).getD "")).length)
        | .senseless => Execution.refuse "Bad substitution"
        | .without atEnd longest pattern =>
          let v := (← s.value? name).getD ""
          let p := Pattern.read (markedOf (← piecesOf capture fuel false pattern))
          return valuePieces quoted
            (Text.Utf8.decodeStray (Pattern.trim p atEnd longest (bytesOf v)))
        | .instead kind emptyIsMissing word =>
          let isMissing := (s.parameter? name).all fun v => emptyIsMissing && v.isEmpty
          match kind, isMissing with
          | .alternative, true => return []
          | .alternative, false | .fallback, true => piecesOf capture fuel (!quoted) word
          | .fallback, false | .assignment, false | .complaint, false =>
            parameterPieces name quoted
          | .assignment, true =>
            let v := textOf (← piecesOf capture fuel false word)
            if !isName name then Execution.refuse (name ++ ": bad variable name")
            Execution.assign name v
            return valuePieces quoted v
          | .complaint, true =>
            let message := textOf (← piecesOf capture fuel false word)
            let usual := "parameter not set" ++ if emptyIsMissing then " or null" else ""
            Execution.refuse (name ++ ": " ++ if message = "" then usual else message)
    return each.flatten

/-- How deeply words may stand inside words. -/
def wordDepth : Nat := 64

/-- The fields that a word stands for, patterns replaced by what they match. -/
def expandWord (capture : Capture) (w : Word) : Execution (List String) := do
  let ps ← piecesOf capture wordDepth false (withHome (← get) w)
  let s ← get
  return (s.fields ps).flatMap fun f =>
    if s.options.contains 'f' then [Pattern.plain f] else Pattern.paths s.tree s.directory f

/-- The fields that several words stand for. -/
def expandWords (capture : Capture) (ws : List Word) : Execution (List String) := do
  return (← ws.mapM (expandWord capture)).flatten

/-- The text that a word stands for where no field is split off. -/
def expandText (capture : Capture) (w : Word) : Execution String := do
  return textOf (← piecesOf capture wordDepth false (withHome (← get) w))

/-- The pattern that a word stands for. -/
def expandPattern (capture : Capture) (w : Word) : Execution Pattern := do
  return Pattern.read (markedOf (← piecesOf capture wordDepth false (withHome (← get) w)))

end CompilerRunner.Shell
