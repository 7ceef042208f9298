import CompilerRunner.Decimal.Reading
import CompilerRunner.Text.Utf8
import CompilerRunner.Yaml.Cursor
import CompilerRunner.Yaml.Token

/-!
# Yaml — Token — Lexeme

How a single token is read: directives, anchors, tags, and the five ways to write a scalar.  In
every one of them line breaks are folded: a single one stands for a space, and of several the first
is dropped, except in a literal block.
-/

namespace CompilerRunner.Yaml.Lexeme

open Scan

/-- A character of a name or handle. -/
def isNameChar (c : Char) : Bool := c.isAlphanum || c = '-' || c = '_'

/-- A number of exactly `n` hexadecimal digits. -/
def hexNumber (n : Nat) : Scan Nat := do
  let cs := (← get).rest.take n
  match Decimal.readWhole? 16 cs with
  | some code =>
    if cs.length = n then
      skip n
      return code
    else throw .token
  | none => throw .token

/-! ### Directives, anchors and tags -/

/-- A name, one character at least. -/
def name : Scan String := do
  let cs ← takeWhile isNameChar
  require (!cs.isEmpty)
  return String.ofList cs

/-- A number of a version. -/
def versionNumber : Scan Nat := do
  let cs ← takeWhile Char.isDigit
  require (!cs.isEmpty)
  if Decimal.decimalDigitLimit < cs.length then throw (.accident .malformed)
  return (Decimal.readWhole? 10 cs).getD 0

/-- The handle of a tag: a name between exclamation marks, or a single mark. -/
def tagHandle : Scan String := do
  require ((← here) = some '!')
  let rest := (← get).rest.drop 1
  let body := rest.takeWhile isNameChar
  if rest.head? = some ' ' then return String.ofList (← take 1)
  require ((rest.drop body.length).head? = some '!')
  return String.ofList (← take (body.length + 2))

/-- A character that may stand in the part of a tag after its handle. -/
def isUriChar (c : Char) : Bool := c.isAlphanum || "-;/?:@&=+$,_.!~*'()[]".toList.contains c

/-- Bytes, each written as a percent sign and two digits. -/
def escapedBytes : (fuel : Nat) → Scan (List UInt8)
  | 0 => return []
  | fuel + 1 => do
    if (← here) = some '%' then
      skip 1
      let b ← hexNumber 2
      return UInt8.ofNat b :: (← escapedBytes fuel)
    else return []

/-- The characters of a tag after its handle. -/
def uriPieces : (fuel : Nat) → Scan (List Char)
  | 0 => return []
  | fuel + 1 => do
    let cs ← takeWhile isUriChar
    if (← here) = some '%' then
      match Text.Utf8.decodeChars? (← escapedBytes (← remaining)) with
      | some decoded => return cs ++ decoded ++ (← uriPieces fuel)
      | none => throw .token
    else return cs

/-- The part of a tag after its handle, not empty. -/
def uri : Scan String := do
  let start := (← get).index
  let cs ← uriPieces (← remaining)
  require (start < (← get).index)
  return String.ofList cs

/-- A directive, from its percent sign to the end of its line. -/
def directive : Scan Directive := do
  skip 1
  let title ← name
  require (endsWord (← here))
  let d ←
    if title = "YAML" then do
      skipSpaces
      let major ← versionNumber
      require ((← here) = some '.')
      skip 1
      let minor ← versionNumber
      require (endsWord (← here))
      pure (Directive.version major minor)
    else if title = "TAG" then do
      skipSpaces
      let handle ← tagHandle
      require ((← here) = some ' ')
      skipSpaces
      let meaning ← uri
      require (endsWord (← here))
      pure (Directive.tag handle meaning)
    else do
      discard (takeWhile fun c => !isBreak c)
      pure .other
  restOfLine
  return d

/-- The name of an anchor or alias, from its mark on. -/
def anchorName : Scan String := do
  skip 1
  let s ← name
  let next ← here
  require (endsToken next || next.any fun c => "?:,]\x7d%@".toList.contains c || c.toNat = 0x60)
  return s

/-- A tag: a whole one between angle brackets, a handle and what follows it, or a lone mark. -/
def tag : Scan Token := do
  let next ← ahead 1
  let t ←
    if next = some '<' then do
      skip 2
      let meaning ← uri
      require ((← here) = some '>')
      skip 1
      pure (Token.tag none meaning)
    else if endsToken next then do
      skip 1
      pure (Token.tag none "!")
    else do
      let word := ((← get).rest.drop 1).takeWhile fun c => !endsWord (some c)
      let handle ← if word.contains '!' then tagHandle else do
        skip 1
        pure "!"
      pure (Token.tag (some handle) (← uri))
  require (endsWord (← here))
  return t

/-! ### Block scalars -/

/-- What is done with the line breaks at the end of a block scalar. -/
inductive Chomping where
  | strip
  | clip
  | keep
deriving DecidableEq

/-- The chomping that a sign stands for. -/
def chompingOf? : Option Char → Option Chomping
  | some '+' => some .keep
  | some '-' => some .strip
  | _ => none

/-- The explicit indentation here, if there is one; it is not zero. -/
def indentationDigit : Scan (Option Nat) := do
  match ← here with
  | some c =>
    if c.isDigit then
      require (c ≠ '0')
      skip 1
      return some (c.toNat - '0'.toNat)
    else return none
  | none => return none

/-- The sign and the digit after the mark of a block scalar, in either order. -/
def blockHeader : Scan (Chomping × Option Nat) := do
  let header ←
    match chompingOf? (← here) with
    | some chomping => do
      skip 1
      pure (chomping, ← indentationDigit)
    | none => do
      let digit ← indentationDigit
      match digit, chompingOf? (← here) with
      | some _, some chomping => do
        skip 1
        pure (chomping, digit)
      | _, _ => pure (.clip, digit)
  require (endsWord (← here))
  return header

/-- Move on past the spaces, but not beyond the column `indent`. -/
def skipIndentation (indent : Nat) : Scan Unit := do
  let c ← get
  let spaces := (c.rest.takeWhile (· = ' ')).length
  skip (min spaces (indent - c.column))

/-- The breaks of empty lines, with the indentation of the line after them. -/
def emptyLines (indent : Nat) : (fuel : Nat) → Scan (List Char)
  | 0 => return []
  | fuel + 1 => do
    skipIndentation indent
    match ← lineBreak with
    | [] => return []
    | b => return b ++ (← emptyLines indent fuel)

/-- The breaks of empty lines at the start of a block, and the widest indentation among them and the
first line that is not empty. -/
def leadingLines : (fuel widest : Nat) → Scan (List Char × Nat)
  | 0, widest => return ([], widest)
  | fuel + 1, widest => do
    skipSpaces
    let widest := max widest (← get).column
    match ← lineBreak with
    | [] => return ([], widest)
    | b =>
      let (breaks, w) ← leadingLines fuel widest
      return (b ++ breaks, w)

/-- Here stands a space or a tab. -/
def isIndented (c : Option Char) : Bool := c == some ' ' || c == some '\t'

/-- The lines of a block after the empty ones with the breaks `breaks`: their text, the break of the
last one, and the breaks after it.  When folding, a break between two lines that are not indented
further is a space, or nothing if empty lines follow it. -/
def blockLines (folded : Bool) (indent : Nat) :
    (fuel : Nat) → (breaks : List Char) → Scan (List Char × List Char × List Char)
  | 0, breaks => return ([], [], breaks)
  | fuel + 1, breaks => do
    let c ← get
    if c.column = indent ∧ c.rest ≠ [] then
      let plain := !isIndented (← here)
      let line ← takeWhile fun c => !isBreak c
      let lastBreak ← lineBreak
      let following ← emptyLines indent (← remaining)
      let c ← get
      if c.column = indent ∧ c.rest ≠ [] then
        let joint :=
          if folded && lastBreak == ['\n'] && plain && !isIndented c.rest.head? then
            if following.isEmpty then [' '] else []
          else lastBreak
        let (text, finalBreak, final) ← blockLines folded indent fuel following
        return (breaks ++ line ++ joint ++ text, finalBreak, final)
      else return (breaks ++ line, lastBreak, following)
    else return ([], [], breaks)

/-- A literal or folded block, inside a collection at the column `parent`, or -1 at the top. -/
def blockScalar (folded : Bool) (parent : Int) : Scan Token := do
  skip 1
  let (chomping, digit) ← blockHeader
  restOfLine
  let least := max 1 (parent + 1).toNat
  let (indent, breaks) ←
    match digit with
    | some n => do
      let indent := least + n - 1
      pure (indent, ← emptyLines indent (← remaining))
    | none => do
      let (breaks, widest) ← leadingLines (← remaining) 0
      pure (max least widest, breaks)
  let (text, lastBreak, final) ← blockLines folded indent (← remaining) breaks
  let ending :=
    match chomping with
    | .strip => []
    | .clip => lastBreak
    | .keep => lastBreak ++ final
  return .scalar (Text.ofChars (text ++ ending)) false

/-! ### Quoted scalars -/

/-- What the break `first` and the breaks after it stand for. -/
def folding (first breaks : List Char) : List Char :=
  if first ≠ ['\n'] then first ++ breaks else if breaks.isEmpty then [' '] else breaks

/-- The breaks of the lines after a break in quotes; a separator of documents is refused. -/
def quotedBreaks : (fuel : Nat) → Scan (List Char)
  | 0 => return []
  | fuel + 1 => do
    require (!(← get).atSeparator)
    discard (takeWhile fun c => c = ' ' || c = '\t')
    match ← lineBreak with
    | [] => return []
    | b => return b ++ (← quotedBreaks fuel)

/-- The characters that stand for others after a backslash. -/
def escapes : List (Char × Nat) :=
  [('0', 0x00), ('a', 0x07), ('b', 0x08), ('t', 0x09), ('\t', 0x09), ('n', 0x0A), ('v', 0x0B),
    ('f', 0x0C), ('r', 0x0D), ('e', 0x1B), (' ', 0x20), ('"', 0x22), ('\\', 0x5C), ('/', 0x2F),
    ('N', 0x85), ('_', 0xA0), ('L', 0x2028), ('P', 0x2029)]

/-- How many digits follow each of the marks of a numeric escape. -/
def numericEscapes : List (Char × Nat) := [('x', 2), ('u', 4), ('U', 8)]

/-- The number, if it is that of a code point. -/
def codeOfNumber (n : Nat) : Except Fault Nat :=
  if 0x7FFFFFFF < n then .error (.accident .outOfRange)
  else if 0x10FFFF < n then .error (.accident .malformed)
  else .ok n

/-- The code points of characters. -/
def codesOfChars (cs : List Char) : List Nat := cs.map Char.toNat

/-- The code points that are meant by what stands after a backslash in double quotes. -/
def escape : Scan (List Nat) := do
  match ← here with
  | some c =>
    match escapes.lookup c, numericEscapes.lookup c with
    | some n, _ =>
      skip 1
      return [n]
    | none, some width =>
      skip 1
      return [← codeOfNumber (← hexNumber width)]
    | none, none =>
      require (isBreak c)
      discard lineBreak
      codesOfChars <$> quotedBreaks (← remaining)
  | none => throw .token

/-- The code points up to the closing quote or to white space. -/
def quotedWord (double : Bool) : (fuel : Nat) → Scan (List Nat)
  | 0 => return []
  | fuel + 1 => do
    let cs ← takeWhile fun c => c ≠ '\'' && c ≠ '"' && c ≠ '\\' && !endsToken (some c)
    match double, ← here, ← ahead 1 with
    | false, some '\'', some '\'' =>
      skip 2
      return codesOfChars (cs ++ ['\'']) ++ (← quotedWord double fuel)
    | true, some '\'', _ | false, some '"', _ | false, some '\\', _ =>
      let c ← take 1
      return codesOfChars (cs ++ c) ++ (← quotedWord double fuel)
    | true, some '\\', _ =>
      skip 1
      let c ← escape
      return codesOfChars cs ++ c ++ (← quotedWord double fuel)
    | _, _, _ => return codesOfChars cs

/-- White space between the words in quotes: kept within a line, folded across lines. -/
def quotedSpace : Scan (List Char) := do
  let space ← takeWhile fun c => c = ' ' || c = '\t'
  require (← here).isSome
  match ← lineBreak with
  | [] => return space
  | first => return folding first (← quotedBreaks (← remaining))

/-- The code points of the text that ends with the closing quote. -/
def quotedText (double : Bool) : (fuel : Nat) → Scan (List Nat)
  | 0 => return []
  | fuel + 1 => do
    let word ← quotedWord double (← remaining)
    if (← here) = some (if double then '"' else '\'') then
      skip 1
      return word
    else
      let space ← quotedSpace
      return word ++ codesOfChars space ++ (← quotedText double fuel)

/-- A scalar in quotes, of which backslashes mean something only in double ones. -/
def quotedScalar (double : Bool) : Scan Token := do
  skip 1
  return .scalar (Text.ofCodes (← quotedText double (← remaining))) false

/-! ### Plain scalars -/

/-- A character that has a meaning of its own inside brackets. -/
def isFlowIndicator (c : Char) : Bool := ",[]\x7b\x7d".toList.contains c

/-- The length of the word here.  A colon ends it only where a value follows. -/
def plainLength (flow : Bool) : List Char → Nat
  | [] => 0
  | c :: rest =>
    if endsToken (some c) then 0
    else if c = ':' && (endsToken rest.head? || flow && rest.head?.any isFlowIndicator) then 0
    else if flow && (isFlowIndicator c || c = '?') then 0
    else plainLength flow rest + 1

/-- The breaks of the lines after a break in a plain scalar, or none before a separator of
documents. -/
def plainBreaks : (fuel : Nat) → Scan (Option (List Char))
  | 0 => return none
  | fuel + 1 => do
    if (← get).atSeparator then return none
    skipSpaces
    match ← lineBreak with
    | [] => return some []
    | b => return (← plainBreaks fuel).map (b ++ ·)

/-- The white space after a word of a plain scalar, folded, and whether a line ended in it.  Before
a separator of documents it counts as none. -/
def plainSpace : Scan (List Char × Bool) := do
  let space ← takeWhile (· = ' ')
  match ← lineBreak with
  | [] => return (space, false)
  | first =>
    match ← plainBreaks (← remaining) with
    | some breaks => return (folding first breaks, true)
    | none => return ([], true)

/-- The words of a plain scalar after the white space `space`, in which a line ended or not. -/
def plainWords (flow : Bool) (indent : Int) :
    (fuel : Nat) → (space : List Char) → (ended : Bool) → Scan (List Char × Bool)
  | 0, _, ended => return ([], ended)
  | fuel + 1, space, ended => do
    let c ← get
    let n := plainLength flow c.rest
    if c.rest.head? = some '#' ∨ n = 0 then return ([], ended)
    let word ← take n
    let (next, ended) ← plainSpace
    let c ← get
    if next = [] ∨ c.rest.head? = some '#' ∨ (¬ flow ∧ (c.column : Int) < indent) then
      return (space ++ word, ended)
    let (words, ended) ← plainWords flow indent fuel next ended
    return (space ++ word ++ words, ended)

/-- A plain scalar inside a collection at the column `parent`, and whether a line ended after its
last word. -/
def plainScalar (flow : Bool) (parent : Int) : Scan (Token × Bool) := do
  let (text, ended) ← plainWords flow (parent + 1) (← remaining) [] false
  return (.scalar (Text.ofChars text) true, ended)

end CompilerRunner.Yaml.Lexeme
