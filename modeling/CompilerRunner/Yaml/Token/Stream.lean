import CompilerRunner.Yaml.Token.Lexeme

/-!
# Yaml — Token — Stream

The tokens of a text in order.  Whether a scalar is a key shows only at the colon after it, which
must stand on the same line and within `keyReach` characters; a `Candidate` is kept for each depth
of brackets until that is decided, and the tokens from it on are held back in a queue.  So each
token is given out as soon as it is decided, and a fault takes effect only where the tokens before
it end (`tokens`).
-/

namespace CompilerRunner.Yaml

/-- A token that may turn out to be a key, by its number and place.  It must be one if it starts a
line of a block. -/
structure Candidate where
  number : Nat
  required : Bool
  index : Nat
  line : Nat
  column : Nat

/-- The place in the text, the tokens that are not given out yet, and what decides the next one: the
depth of brackets, the columns of the open blocks, and the candidates for keys by depth. -/
structure Scanner where
  cursor : Cursor
  flowLevel : Int := 0
  queue : List Token := []
  given : Nat := 0
  indent : Int := -1
  indents : List Int := []
  keyAllowed : Bool := true
  candidates : List (Int × Candidate) := []
  done : Bool := false

namespace Scanner

/-- A key and its colon are at most that far apart. -/
def keyReach : Nat := 1024

/-- Between brackets. -/
def inFlow (s : Scanner) : Bool := s.flowLevel ≠ 0

/-- The scanner with one more token in its queue. -/
def push (s : Scanner) (t : Token) : Scanner := { s with queue := s.queue ++ [t] }

/-- The scanner `n` characters further on. -/
def advance (s : Scanner) (n : Nat) : Scanner := { s with cursor := s.cursor.advance n }

/-- The scanner after a part of the text is read. -/
def scan {α : Type} (s : Scanner) (part : Scan α) : Except Fault (α × Scanner) := do
  let (a, cursor) ← part s.cursor
  return (a, { s with cursor })

/-- The scanner without the candidates from which no colon can be reached any more; one that had to
be a key is a fault. -/
def dropStale (s : Scanner) : Except Fault Scanner :=
  let stale (c : Candidate) : Bool :=
    c.line ≠ s.cursor.line || keyReach < s.cursor.index - c.index
  if s.candidates.any fun c => stale c.2 && c.2.required then .error .token
  else .ok { s with candidates := s.candidates.filter fun c => !stale c.2 }

/-- The scanner without the candidate of the present depth, which cannot be a key. -/
def dropCandidate (s : Scanner) : Except Fault Scanner :=
  if s.candidates.any fun c => c.1 = s.flowLevel && c.2.required then .error .token
  else .ok { s with candidates := s.candidates.filter fun c => c.1 ≠ s.flowLevel }

/-- The scanner with the next token as the candidate of the present depth, where a key may stand. -/
def saveCandidate (s : Scanner) : Except Fault Scanner :=
  if s.keyAllowed then do
    let c : Candidate :=
      { number := s.given + s.queue.length
        required := !s.inFlow && s.indent = s.cursor.column
        index := s.cursor.index
        line := s.cursor.line
        column := s.cursor.column }
    let s ← s.dropCandidate
    return { s with candidates := s.candidates ++ [(s.flowLevel, c)] }
  else .ok s

/-- The open blocks deeper than the column are closed. -/
def closeBlocks (column : Int) : (indents : List Int) → (indent : Int) → List Token × List Int × Int
  | [], indent => ([], [], indent)
  | outer :: rest, indent =>
    if column < indent then
      let (ends, is, i) := closeBlocks column rest outer
      (.blockEnd :: ends, is, i)
    else ([], outer :: rest, indent)

/-- The scanner with the open blocks deeper than the column closed; brackets close none. -/
def unwind (s : Scanner) (column : Int) : Scanner :=
  if s.inFlow then s
  else
    let (ends, indents, indent) := closeBlocks column s.indents s.indent
    { s with queue := s.queue ++ ends, indents, indent }

/-- The scanner with a block open at the column, and whether it had to be opened. -/
def openBlock (s : Scanner) (column : Int) : Bool × Scanner :=
  if s.indent < column then
    (true, { s with indents := s.indent :: s.indents, indent := column })
  else (false, s)

/-- White space, comments and line breaks are skipped.  A key may stand at the start of a line. -/
def skipFiller (s : Scanner) : (fuel : Nat) → Except Fault Scanner
  | 0 => .ok s
  | fuel + 1 => do
    let (ended, s) ← s.scan do
      Scan.skipSpaces
      Scan.skipComment
      return !(← Scan.lineBreak).isEmpty
    if ended then
      skipFiller (if s.inFlow then s else { s with keyAllowed := true }) fuel
    else return s

/-- The end of the text. -/
def fetchEnd (s : Scanner) : Except Fault Scanner := do
  let s ← (s.unwind (-1)).dropCandidate
  return { s.push .streamEnd with keyAllowed := false, candidates := [], done := true }

/-- A directive. -/
def fetchDirective (s : Scanner) : Except Fault Scanner := do
  let s ← (s.unwind (-1)).dropCandidate
  let (d, s) ← s.scan Lexeme.directive
  return { s.push (.directive d) with keyAllowed := false }

/-- A separator of documents. -/
def fetchSeparator (s : Scanner) (t : Token) : Except Fault Scanner := do
  let s ← (s.unwind (-1)).dropCandidate
  return { (s.advance 3).push t with keyAllowed := false }

/-- An opening bracket. -/
def fetchOpening (s : Scanner) (t : Token) : Except Fault Scanner := do
  let s ← s.saveCandidate
  return { (s.advance 1).push t with flowLevel := s.flowLevel + 1, keyAllowed := true }

/-- A closing bracket. -/
def fetchClosing (s : Scanner) (t : Token) : Except Fault Scanner := do
  let s ← s.dropCandidate
  return { (s.advance 1).push t with flowLevel := s.flowLevel - 1, keyAllowed := false }

/-- A comma between brackets. -/
def fetchFlowEntry (s : Scanner) : Except Fault Scanner := do
  let s ← s.dropCandidate
  return { (s.advance 1).push .flowEntry with keyAllowed := true }

/-- The scanner with a block open at the place of a mark, which starts with the token. -/
def openAtMark (s : Scanner) (start : Token) : Except Fault Scanner :=
  if s.inFlow then .ok s
  else if s.keyAllowed then
    match s.openBlock s.cursor.column with
    | (true, s) => .ok (s.push start)
    | (false, s) => .ok s
  else .error .token

/-- The mark of an item of a block. -/
def fetchBlockEntry (s : Scanner) : Except Fault Scanner := do
  let s ← s.openAtMark .blockSequenceStart
  let s ← s.dropCandidate
  return { (s.advance 1).push .blockEntry with keyAllowed := true }

/-- The mark of a key. -/
def fetchKey (s : Scanner) : Except Fault Scanner := do
  let s ← s.openAtMark .blockMappingStart
  let s ← s.dropCandidate
  return { (s.advance 1).push .key with keyAllowed := !s.inFlow }

/-- The queue with a token put in front of the token of that number. -/
def insertAt (s : Scanner) (number : Nat) (t : Token) : Scanner :=
  { s with queue := s.queue.take (number - s.given) ++ t :: s.queue.drop (number - s.given) }

/-- The colon before a value: it makes the candidate of the present depth a key. -/
def fetchValue (s : Scanner) : Except Fault Scanner := do
  match s.candidates.lookup s.flowLevel with
  | some c =>
    let s := { s with candidates := s.candidates.filter fun e => e.1 ≠ s.flowLevel }
    let s := s.insertAt c.number .key
    let s :=
      if s.inFlow then s
      else
        match s.openBlock c.column with
        | (true, s) => s.insertAt c.number .blockMappingStart
        | (false, s) => s
    return { (s.advance 1).push .value with keyAllowed := false }
  | none =>
    let s ← s.openAtMark .blockMappingStart
    return { (s.advance 1).push .value with keyAllowed := !s.inFlow }

/-- A token that may be or begin a key. -/
def fetchCandidate (s : Scanner) (part : Scan Token) : Except Fault Scanner := do
  let s ← s.saveCandidate
  let (t, s) ← s.scan part
  return { s.push t with keyAllowed := false }

/-- A block scalar. -/
def fetchBlockScalar (s : Scanner) (folded : Bool) : Except Fault Scanner := do
  let s ← s.dropCandidate
  let (t, s) ← s.scan (Lexeme.blockScalar folded s.indent)
  return { s.push t with keyAllowed := true }

/-- A plain scalar.  After it a key may stand only if it ended a line. -/
def fetchPlain (s : Scanner) : Except Fault Scanner := do
  let s ← s.saveCandidate
  let ((t, ended), s) ← s.scan (Lexeme.plainScalar s.inFlow s.indent)
  return { s.push t with keyAllowed := ended }

/-- The characters that start no plain scalar, or only if a word follows directly. -/
def indicators : List Char :=
  Char.ofNat 0x60 :: "-?:,[]\x7b\x7d#&*!|>'\"%@".toList

/-- A plain scalar can start with the character, followed by `next`. -/
def startsPlain (flow : Bool) (c : Char) (next : Option Char) : Bool :=
  (!endsToken (some c) && !indicators.contains c)
    || (!endsToken next && (c = '-' || (!flow && (c = '?' || c = ':'))))

/-- The next part of the text is read into tokens. -/
def fetch (s : Scanner) : Except Fault Scanner := do
  let s ← s.skipFiller (s.cursor.rest.length + 1)
  let s ← s.dropStale
  let s := s.unwind s.cursor.column
  let next := s.cursor.ahead 1
  let lineStart := s.cursor.column = 0
  match s.cursor.rest.head? with
  | none => s.fetchEnd
  | some c =>
    let markEnds := s.inFlow || endsToken next
    if c = '%' ∧ lineStart then s.fetchDirective
    else if c = '-' ∧ lineStart ∧ s.cursor.atSeparator then s.fetchSeparator .documentStart
    else if c = '.' ∧ lineStart ∧ s.cursor.atSeparator then s.fetchSeparator .documentEnd
    else if c = '[' then s.fetchOpening .flowSequenceStart
    else if c = '{' then s.fetchOpening .flowMappingStart
    else if c = ']' then s.fetchClosing .flowSequenceEnd
    else if c = '}' then s.fetchClosing .flowMappingEnd
    else if c = ',' then s.fetchFlowEntry
    else if c = '-' ∧ endsToken next then s.fetchBlockEntry
    else if c = '?' ∧ markEnds then s.fetchKey
    else if c = ':' ∧ markEnds then s.fetchValue
    else if c = '*' then s.fetchCandidate (Token.alias <$> Lexeme.anchorName)
    else if c = '&' then s.fetchCandidate (Token.anchor <$> Lexeme.anchorName)
    else if c = '!' then s.fetchCandidate Lexeme.tag
    else if c = '|' ∧ !s.inFlow then s.fetchBlockScalar false
    else if c = '>' ∧ !s.inFlow then s.fetchBlockScalar true
    else if c = '\'' then s.fetchCandidate (Lexeme.quotedScalar false)
    else if c = '"' then s.fetchCandidate (Lexeme.quotedScalar true)
    else if startsPlain s.inFlow c next then s.fetchPlain
    else .error .token

/-- The first token of the queue is not decided yet, or there is none. -/
def needsMore (s : Scanner) : Bool :=
  s.queue.isEmpty || s.candidates.any fun c => c.2.number = s.given

/-- Parts of the text are read until the next token is decided. -/
def settle (s : Scanner) : (fuel : Nat) → Except Fault Scanner
  | 0 => .ok s
  | fuel + 1 => do
    if s.done then return s
    let s ← if s.queue.isEmpty then .ok s else s.dropStale
    if s.needsMore then settle (← s.fetch) fuel else return s

/-- The tokens that are given out from here on, and the fault that ends them. -/
def drain (s : Scanner) : (fuel : Nat) → List Token × Option Fault
  | 0 => ([], none)
  | fuel + 1 =>
    match s.settle (s.cursor.rest.length + 2) with
    | .error f => ([], some f)
    | .ok s =>
      match s.queue with
      | [] => ([], none)
      | t :: queue =>
        let (ts, fault) := drain { s with queue, given := s.given + 1 } fuel
        (t :: ts, fault)

end Scanner

/-- The tokens of a text up to its end or to a fault.  There are at most four for each character: a
key and a value with the start and the end of their block. -/
def tokens (text : List Char) : List Token × Option Fault :=
  let start := if text.head? = some byteOrderMark then 1 else 0
  let s : Scanner := { cursor := Cursor.advance { rest := text } start }
  s.drain (4 * text.length + 8)

end CompilerRunner.Yaml
