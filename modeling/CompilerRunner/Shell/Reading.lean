import CompilerRunner.Shell.Reader

/-!
# Shell — Reading

Commands from the text of a script.  A script is read one line at a time, or as many lines as a
command takes (`nextCommand?`), since what a line says can be carried out before the next is read.
-/

namespace CompilerRunner.Shell

/-- Where a part of a word stands, which decides what ends it and what its characters mean. -/
inductive Surroundings where
  | bare
  | braces
  | quotes
  | quotedBraces
  | arithmetic (depth : Nat)
  | document
deriving DecidableEq

namespace Surroundings

/-- What stands here is quoted. -/
def isQuoted : Surroundings → Bool
  | .bare | .braces => false
  | _ => true

/-- The character around a script whose output is taken. -/
def scriptMark : Char := Char.ofNat 0x60

/-- A backslash is dropped before the character here. -/
def canEscape (p : Surroundings) (c : Char) : Bool :=
  match p with
  | .bare | .braces => true
  | .document => c = '$' || c = '\\' || c = scriptMark
  | .quotedBraces => "$\"\\\x7d".toList.contains c || c = scriptMark
  | _ => "$\"\\".toList.contains c || c = scriptMark

/-- The complaint if the text ends here. -/
def endFault? : Surroundings → Option String
  | .bare | .document => none
  | .braces => some "Missing '\x7d'"
  | .quotes | .quotedBraces => some "Unterminated quoted string"
  | .arithmetic _ => some "Missing '))'"

end Surroundings

namespace Reader

/-- The character ends a word. -/
def endsWord (c : Char) : Bool := isSeparating c || ";&|<>()".toList.contains c

/-- The character stands for itself in a word, wherever it stands. -/
def isOrdinary (c : Char) : Bool :=
  !endsWord c && c ≠ Surroundings.scriptMark && !"\\'\"$\x7b\x7d".toList.contains c

/-- The part is all arguments. -/
def isArguments : Part → Bool
  | .parameter "@" .value true => true
  | _ => false

/-- What stands between double quotes.  The quotes are a part of the word, unless all arguments and
nothing else stand between them: if there are none, not even an empty word is meant. -/
def betweenQuotes (w : Word) : Word :=
  if !w.isEmpty && w.all isArguments then w else .quotes :: w

/-- A character of a text between the marks of an old-fashioned script, where some need a backslash.
-/
def unescaped (quoted : Bool) : List Char → List Char
  | '\\' :: c :: rest =>
    if c = '\\' ∨ c = '$' ∨ c = Surroundings.scriptMark ∨ (quoted = true ∧ c = '"') then
      c :: unescaped quoted rest
    else '\\' :: c :: unescaped quoted rest
  | c :: rest => c :: unescaped quoted rest
  | [] => []

/-- The text up to the next script mark that has no backslash before it. -/
def upToMark : List Char → Option (List Char)
  | [] => none
  | '\\' :: c :: rest => (upToMark rest).map ('\\' :: c :: ·)
  | c :: rest => if c = Surroundings.scriptMark then some [] else (upToMark rest).map (c :: ·)

/-- The command that does nothing. -/
def idle (line : Nat) : Command := .simple line [] [] []

/-- The name and the value of an assignment. -/
def assignment? : Word → Option (String × Word)
  | .text s false :: rest =>
    let name := String.ofList (s.toList.takeWhile (· ≠ '='))
    match s.toList.drop name.length with
    | '=' :: value =>
      if isName name then
        some (name, if value.isEmpty then rest else .text (String.ofList value) false :: rest)
      else none
    | _ => none
  | _ => none

/-- A part of the word is quoted. -/
def isQuotedWord (w : Word) : Bool :=
  w.any fun
    | .text _ quoted => quoted
    | .quotes => true
    | _ => false

/-- The text of a word as it is written, as far as it is text. -/
def writtenText (w : Word) : String :=
  String.join (w.map fun
    | .text s _ => s
    | _ => "")

/-- The name of a parameter between braces, if its value is not asked for by a `#` before it. -/
def parameterName : List Char → List Char
  | c :: rest =>
    if isNameStart c then c :: rest.takeWhile isNameChar
    else if c.isDigit then c :: rest.takeWhile Char.isDigit
    else if isSpecialParameter c then [c]
    else []
  | [] => []

/-- The name of the parameter whose length is asked for, between `#` and the closing brace. -/
def measured? : List Char → Option (List Char)
  | '#' :: c :: rest =>
    let name := parameterName (c :: rest)
    if name ≠ [] ∧ (rest.drop (name.length - 1)).head? = some '\x7d' then some name else none
  | _ => none

/-- The length of a name is asked for, in a way that makes no sense. -/
def isMismeasured : List Char → Bool
  | '#' :: c :: _ => isNameStart c || c.isDigit
  | _ => false

/-- What is done to a parameter, by the character that says so. -/
def instead? : Char → Option Instead
  | '-' => some .fallback
  | '=' => some .assignment
  | '?' => some .complaint
  | '+' => some .alternative
  | _ => none

mutual

/-- The parts of a word up to its end. -/
def parts : (fuel : Nat) → Surroundings → Reader Word
  | 0, _ => fail "word too long"
  | fuel + 1, place => do
    let quoted := place.isQuoted
    match ← rest with
    | [] =>
      match place.endFault? with
      | some message => fail message
      | none => return []
    | '\\' :: '\n' :: _ =>
      skip 2
      parts fuel place
    | ['\\'] =>
      skip 1
      return .text "\\" true :: (← parts fuel place)
    | '\\' :: c :: _ =>
      skip 2
      let s := if place.canEscape c then String.singleton c else String.ofList ['\\', c]
      return .text s true :: (← parts fuel place)
    | '$' :: _ =>
      skip 1
      let first ← dollar fuel quoted
      return first :: (← parts fuel place)
    | c :: _ =>
      if c = Surroundings.scriptMark then do
        skip 1
        let first ← markedScript fuel quoted
        return first :: (← parts fuel place)
      else if isOrdinary c then do
        let run ← takeWhile isOrdinary
        return .text (String.ofList run) quoted :: (← parts fuel place)
      else
        match place, c with
        | .bare, '\'' | .braces, '\'' => do
          skip 1
          let inside ← takeWhile (· ≠ '\'')
          if !(← skipIf '\'') then fail "Unterminated quoted string"
          return .quotes :: .text (String.ofList inside) true :: (← parts fuel place)
        | .bare, '"' | .braces, '"' => do
          skip 1
          let inside ← parts fuel .quotes
          return betweenQuotes inside ++ (← parts fuel place)
        | .quotes, '"' | .braces, '\x7d' | .quotedBraces, '\x7d' => do
          skip 1
          return []
        | .quotedBraces, '"' => do
          skip 1
          parts fuel place
        | .arithmetic (depth + 1), ')' => do
          skip 1
          return .text ")" true :: (← parts fuel (.arithmetic depth))
        | .arithmetic 0, ')' => do
          skip 1
          if ← skipIf ')' then return []
          return .text ")" true :: (← parts fuel place)
        | .arithmetic depth, '(' => do
          skip 1
          return .text "(" true :: (← parts fuel (.arithmetic (depth + 1)))
        | _, _ =>
          if place = .bare ∧ endsWord c = true then return []
          else do
            skip 1
            return .text (String.singleton c) quoted :: (← parts fuel place)

/-- What stands after a dollar sign. -/
def dollar : (fuel : Nat) → (quoted : Bool) → Reader Part
  | 0, _ => fail "word too long"
  | fuel + 1, quoted => do
    match ← rest with
    | '(' :: '(' :: _ =>
      skip 2
      return .arithmetic (← parts fuel (.arithmetic 0))
    | '(' :: _ =>
      skip 1
      let line := (← get).line
      let c ← list fuel true none
      let t ← token fuel
      if t matches .closing then return .output (c.getD (idle line)) quoted
      else unexpected t (some ")")
    | '\x7b' :: _ =>
      skip 1
      braced fuel quoted
    | c :: _ =>
      if isNameStart c then do
        return .parameter (String.ofList (← takeWhile isNameChar)) .value quoted
      else if c.isDigit || isSpecialParameter c then do
        skip 1
        return .parameter (String.singleton c) .value quoted
      else return .text "$" quoted
    | [] => return .text "$" quoted

/-- A parameter after the opening brace. -/
def braced : (fuel : Nat) → (quoted : Bool) → Reader Part
  | 0, _ => fail "word too long"
  | fuel + 1, quoted => do
    let inner : Surroundings := if quoted then .quotedBraces else .braces
    let cs ← rest
    match measured? cs with
    | some name =>
      skip (name.length + 2)
      return .parameter (String.ofList name) .length quoted
    | none =>
      let name := if isMismeasured cs then [] else parameterName cs
      skip name.length
      let senseless : Reader Part := do
        let _ ← parts fuel inner
        return .parameter (String.ofList name) .senseless quoted
      if name = [] then senseless
      else
        let parameter (use : Use) : Part := .parameter (String.ofList name) use quoted
        let emptyIsMissing ← skipIf ':'
        match ← rest with
        | '\x7d' :: _ =>
          skip 1
          return parameter .value
        | c :: d :: _ =>
          match instead? c with
          | some kind =>
            skip 1
            return parameter (.instead kind emptyIsMissing (← parts fuel inner))
          | none =>
            if (c = '%' ∨ c = '#') ∧ emptyIsMissing = false then
              skip (if c = d then 2 else 1)
              return parameter (.without (c = '%') (c = d) (← parts fuel .braces))
            else senseless
        | _ => senseless

/-- A script after the mark that stands before it. -/
def markedScript : (fuel : Nat) → (quoted : Bool) → Reader Part
  | 0, _ => fail "word too long"
  | fuel + 1, quoted => do
    match upToMark (← rest) with
    | none => fail "EOF in backquote substitution"
    | some inside =>
      let line := (← get).line
      skip (inside.length + 1)
      within (unescaped quoted inside) do
        let c ← list fuel true none
        let t ← token fuel
        if t matches .endOfText then return .output (c.getD (idle line)) quoted
        else unexpected t none

/-- The next token. -/
def token : (fuel : Nat) → Reader Token
  | 0 => fail "script too long"
  | fuel + 1 => do
    match (← get).pending with
    | some t =>
      modify fun c => { c with pending := none }
      return t
    | none =>
      skipBlanks ((← rest).length + 1)
      let skipping (n : Nat) (t : Token) : Reader Token := do
        skip n
        return t
      match ← rest with
      | [] => return .endOfText
      | '\n' :: _ =>
        nextLine
        return .newline
      | '&' :: '&' :: _ => skipping 2 .both
      | '&' :: _ => skipping 1 .background
      | '|' :: '|' :: _ => skipping 2 .either
      | '|' :: _ => skipping 1 .pipe
      | ';' :: ';' :: _ => skipping 2 .endOfCase
      | ';' :: _ => skipping 1 .semicolon
      | '(' :: _ => skipping 1 .opening
      | ')' :: _ => skipping 1 .closing
      | '<' :: _ => redirection fuel 0
      | '>' :: _ => redirection fuel 1
      | d :: c :: _ =>
        if d.isDigit ∧ (c = '<' ∨ c = '>') then do
          skip 1
          redirection fuel (d.toNat - '0'.toNat)
        else return .word (← parts fuel .bare)
      | _ => return .word (← parts fuel .bare)

/-- A redirection after the number of what it redirects. -/
def redirection : (fuel : Nat) → (number : Nat) → Reader Token
  | 0, _ => fail "script too long"
  | fuel + 1, number => do
    let target : Reader Word := do
      match ← token fuel with
      | .word w => return w
      | t => unexpected t none
    match ← rest with
    | '>' :: '>' :: _ =>
      skip 2
      return .redirection (.write number (← target) true)
    | '>' :: '&' :: _ | '<' :: '&' :: _ =>
      skip 2
      return .redirection (.copy number (← target))
    | '>' :: '|' :: _ =>
      skip 2
      return .redirection (.write number (← target) false)
    | '<' :: '<' :: _ =>
      skip 2
      let drops ← skipIf '-'
      let delimiter ← target
      let text ← takeDocument (writtenText delimiter) drops
      if isQuotedWord delimiter then
        return .redirection (.document number [.text (String.ofList text) true])
      else return .redirection (.document number (← within text (parts fuel .document)))
    | '<' :: '>' :: _ =>
      skip 2
      return .redirection (.read number (← target))
    | '<' :: _ =>
      skip 1
      return .redirection (.read number (← target))
    | _ =>
      skip 1
      return .redirection (.write number (← target) false)

/-- The next token that is not the end of a line. -/
def tokenBelow : (fuel : Nat) → Reader Token
  | 0 => fail "script too long"
  | fuel + 1 => do
    match ← token fuel with
    | .newline => tokenBelow fuel
    | t => return t

/-- The commands up to the end of a list inside another command, after the commands `before`. -/
def list : (fuel : Nat) → (canBeEmpty : Bool) → (before : Option Command) → Reader (Option Command)
  | 0, _, _ => fail "script too long"
  | fuel + 1, canBeEmpty, before => do
    let t ← tokenBelow fuel
    putBack t
    if t matches .endOfText then return before
    if (canBeEmpty || before.isSome) && t.isEnd then return before
    let c ← chain fuel
    let t ← token fuel
    let c := if t matches .background then Command.background c else c
    let all := before.elim c (.sequence · c)
    match t with
    | .newline | .background | .semicolon => list fuel canBeEmpty (some all)
    | t =>
      putBack t
      return some all

/-- Commands joined by conjunctions and disjunctions, from left to right. -/
def chain : (fuel : Nat) → Reader Command
  | 0 => fail "script too long"
  | fuel + 1 => do joined fuel (← pipeline fuel)

/-- The command continued by conjunctions and disjunctions. -/
def joined : (fuel : Nat) → Command → Reader Command
  | 0, _ => fail "script too long"
  | fuel + 1, first => do
    match ← token fuel with
    | .both => do
      putBack (← tokenBelow fuel)
      joined fuel (.both first (← pipeline fuel))
    | .either => do
      putBack (← tokenBelow fuel)
      joined fuel (.either first (← pipeline fuel))
    | t =>
      putBack t
      return first

/-- Commands each of which reads what the one before it writes; the outcome may be negated. -/
def pipeline : (fuel : Nat) → Reader Command
  | 0 => fail "script too long"
  | fuel + 1 => do
    let t ← token fuel
    if t.isReserved "!" then return .negation (← piped fuel [← command fuel])
    putBack t
    piped fuel [← command fuel]

/-- The commands, the last one first, and those after the next pipes. -/
def piped : (fuel : Nat) → List Command → Reader Command
  | 0, _ => fail "script too long"
  | fuel + 1, before => do
    match ← token fuel with
    | .pipe =>
      putBack (← tokenBelow fuel)
      piped fuel ((← command fuel) :: before)
    | t =>
      putBack t
      match before with
      | [c] => return c
      | cs => return .pipeline cs.reverse

/-- A command. -/
def command : (fuel : Nat) → Reader Command
  | 0 => fail "script too long"
  | fuel + 1 => do
    let line := (← get).line
    let t ← token fuel
    let closedBy (c : Command) (word : String) : Reader Command := do
      let t ← token fuel
      if t.isReserved word then redirected fuel c else unexpected t (some word)
    match t with
    | .opening =>
      let c ← inner fuel
      let t ← token fuel
      if t matches .closing then redirected fuel (.subshell line c) else unexpected t (some ")")
    | .redirection _ =>
      putBack t
      simple fuel (← get).line [] [] []
    | .word w =>
      match t.reserved? with
      | none =>
        putBack (.word w)
        simple fuel (← get).line [] [] []
      | some "\x7b" => closedBy (← inner fuel) "\x7d"
      | some "if" => closedBy (← branches fuel) "fi"
      | some "while" => closedBy (← loop fuel false) "done"
      | some "until" => closedBy (← loop fuel true) "done"
      | some "for" => closedBy (← each fuel line) "done"
      | some "case" => redirected fuel (← choice fuel line)
      | some _ => unexpected t none
    | t => unexpected t none

/-- A list of commands that is not empty. -/
def inner : (fuel : Nat) → Reader Command
  | 0 => fail "script too long"
  | fuel + 1 => do
    match ← list fuel false none with
    | some c => return c
    | none => unexpected .endOfText none

/-- A condition and what is done if it holds, and other branches. -/
def branches : (fuel : Nat) → Reader Command
  | 0 => fail "script too long"
  | fuel + 1 => do
    let condition ← innerOr fuel "then"
    let t ← token fuel
    if !t.isReserved "then" then unexpected t (some "then")
    let yes ← innerOr fuel "fi"
    let t ← token fuel
    if t.isReserved "elif" then return .branch condition yes (some (← branches fuel))
    if t.isReserved "else" then return .branch condition yes (some (← innerOr fuel "fi"))
    putBack t
    return .branch condition yes none

/-- A list of commands, which may be missing only at the end of the text, where the reserved word is
expected. -/
def innerOr : (fuel : Nat) → (expected : String) → Reader Command
  | 0, _ => fail "script too long"
  | fuel + 1, expected => do
    match ← list fuel false none with
    | some c => return c
    | none => unexpected .endOfText (some expected)

/-- A condition and what is done as long as it holds. -/
def loop : (fuel : Nat) → (stopsWhen : Bool) → Reader Command
  | 0, _ => fail "script too long"
  | fuel + 1, stopsWhen => do
    let condition ← innerOr fuel "do"
    let t ← token fuel
    if !t.isReserved "do" then unexpected t (some "do")
    return .loop stopsWhen condition (← innerOr fuel "done")

/-- The words up to the end of their line. -/
def wordsBefore : (fuel : Nat) → Reader (List Word)
  | 0 => fail "script too long"
  | fuel + 1 => do
    match ← token fuel with
    | .word w => return w :: (← wordsBefore fuel)
    | .newline | .semicolon => return []
    | t => unexpected t none

/-- A variable, the words that it goes through, and what is done for each. -/
def each : (fuel : Nat) → (line : Nat) → Reader Command
  | 0, _ => fail "script too long"
  | fuel + 1, line => do
    match ← token fuel with
    | .word w =>
      match (Word.plain? w).filter isName with
      | none => fail "Bad for loop variable"
      | some name =>
        let t ← tokenBelow fuel
        let words ← if t.isReserved "in" then some <$> wordsBefore fuel
          else do
            if !(t matches .semicolon) then putBack t
            pure none
        let t ← tokenBelow fuel
        if !t.isReserved "do" then unexpected t (some "do")
        return .each line name words (← innerOr fuel "done")
    | _ => fail "Bad for loop variable"

/-- A word and the cases that it may match. -/
def choice : (fuel : Nat) → (line : Nat) → Reader Command
  | 0, _ => fail "script too long"
  | fuel + 1, line => do
    match ← token fuel with
    | .word subject =>
      let t ← tokenBelow fuel
      if !t.isReserved "in" then unexpected t (some "in")
      return .choice line subject (← cases fuel)
    | t => unexpected t (some "word")

/-- The cases up to the reserved word after them. -/
def cases : (fuel : Nat) → Reader (List (List Word × Option Command))
  | 0 => fail "script too long"
  | fuel + 1 => do
    let t ← tokenBelow fuel
    if t.isReserved "esac" then return []
    if !(t matches .opening) then putBack t
    let patterns ← alternatives fuel
    let body ← list fuel true none
    let t ← tokenBelow fuel
    if t.isReserved "esac" then return [(patterns, body)]
    match t with
    | .endOfCase => return (patterns, body) :: (← cases fuel)
    | t => unexpected t (some ";;")

/-- The patterns of a case up to the bracket after them. -/
def alternatives : (fuel : Nat) → Reader (List Word)
  | 0 => fail "script too long"
  | fuel + 1 => do
    match ← token fuel with
    | .word w =>
      match ← token fuel with
      | .pipe => return w :: (← alternatives fuel)
      | .closing => return [w]
      | t => unexpected t (some ")")
    | t => unexpected t (some ")")

/-- A command with the redirections that follow it. -/
def redirected : (fuel : Nat) → Command → Reader Command
  | 0, _ => fail "script too long"
  | fuel + 1, c => do
    match ← redirections fuel with
    | [] => return c
    | rs => return .redirected c rs

/-- The redirections that stand here. -/
def redirections : (fuel : Nat) → Reader (List Redirection)
  | 0 => fail "script too long"
  | fuel + 1 => do
    match ← token fuel with
    | .redirection r => return r :: (← redirections fuel)
    | t =>
      putBack t
      return []

/-- A simple command after assignments, words and redirections, each with the last one first; or the
definition of a function. -/
def simple : (fuel : Nat) → (line : Nat) → List (String × Word) → List Word → List Redirection →
    Reader Command
  | 0, _, _, _, _ => fail "script too long"
  | fuel + 1, line, assignments, words, redirections => do
    match ← token fuel, assignments, words, redirections with
    | .word w, as, ws, rs =>
      match if ws.isEmpty then assignment? w else none with
      | some a => simple fuel line (a :: as) ws rs
      | none => simple fuel line as (w :: ws) rs
    | .redirection r, as, ws, rs => simple fuel line as ws (r :: rs)
    | .opening, [], [w], [] =>
      let t ← token fuel
      if !(t matches .closing) then unexpected t.plainly (some ")")
      match (Word.plain? w).filter fun name => isName name && !specialBuiltins.contains name with
      | none => fail "Bad function name"
      | some name =>
        putBack (← tokenBelow fuel)
        return .definition name (← command fuel)
    | t, as, ws, rs =>
      putBack t
      return .simple line as.reverse ws.reverse rs.reverse

end

/-- The fuel that is enough to read a text of that length. -/
def fuelFor (length : Nat) : Nat := 8 * length + 64

/-- The commands up to the end of the line, after the commands `before`. -/
def lineFrom : (fuel : Nat) → (before : Option Command) → Reader (Option Command)
  | 0, _ => fail "script too long"
  | fuel + 1, before => do
    match ← token fuel with
    | .newline => return before
    | .endOfText =>
      putBack .endOfText
      return before
    | t =>
      putBack t
      let c ← chain fuel
      let t ← token fuel
      let c := if t matches .background then Command.background c else c
      let all := some (before.elim c (.sequence · c))
      match t with
      | .background | .semicolon => lineFrom fuel all
      | .newline => return all
      | .endOfText =>
        putBack .endOfText
        return all
      | t => unexpected t none

/-- The command in the next line that is not empty, none if the script ends before. -/
def commandFrom : (fuel : Nat) → Reader (Option Command)
  | 0 => fail "script too long"
  | fuel + 1 => do
    match ← lineFrom (fuelFor (← rest).length) none with
    | some c => return some c
    | none => if (← rest).isEmpty then return none else commandFrom fuel

end Reader

/-- The next command of a script and the place after it; no command if there is none left. -/
def Cursor.nextCommand? (c : Cursor) : Except SyntaxFault (Option Command × Cursor) :=
  (Reader.commandFrom (c.rest.length + 1)).run { c with pending := none }

end CompilerRunner.Shell
