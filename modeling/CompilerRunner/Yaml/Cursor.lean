import CompilerRunner.Yaml.Fault

/-!
# Yaml — Cursor

A place in the text of a document, with the text that follows it, and computations that move it
forward (`Scan`).  Line and column count from zero; a byte order mark takes no column.  The end of
the text counts as the end of a word and of a line.
-/

namespace CompilerRunner.Yaml

/-- A character that ends a line. -/
def isBreak (c : Char) : Bool :=
  c = '\r' || c = '\n' || c.toNat = 0x85 || c.toNat = 0x2028 || c.toNat = 0x2029

/-- Here a line ends. -/
def endsLine : Option Char → Bool
  | none => true
  | some c => isBreak c

/-- Here a word ends, unless by a tab. -/
def endsWord (c : Option Char) : Bool := c == some ' ' || endsLine c

/-- Here a word ends. -/
def endsToken (c : Option Char) : Bool := c == some '\t' || endsWord c

/-- A character that may stand in a document. -/
def isAdmissible (c : Char) : Bool :=
  let n := c.toNat
  n = 0x09 || n = 0x0A || n = 0x0D || (0x20 ≤ n && n ≤ 0x7E) || n = 0x85
    || (0xA0 ≤ n && n ≤ 0xD7FF) || (0xE000 ≤ n && n ≤ 0xFFFD) || 0x10000 ≤ n

/-- The mark that may stand before the text. -/
def byteOrderMark : Char := Char.ofNat 0xFEFF

/-- A place in a text. -/
structure Cursor where
  rest : List Char
  index : Nat := 0
  line : Nat := 0
  column : Nat := 0

namespace Cursor

/-- The character `n` places further on. -/
def ahead (c : Cursor) (n : Nat) : Option Char := c.rest[n]?

/-- The place after the character here.  A line ends after its last character: of a carriage return
and a line feed, after the line feed. -/
def step (c : Cursor) : Cursor :=
  match c.rest with
  | [] => c
  | ch :: rest =>
    if isBreak ch && !(ch = '\r' && rest.head? = some '\n') then
      { rest, index := c.index + 1, line := c.line + 1, column := 0 }
    else
      { rest, index := c.index + 1, line := c.line
        column := if ch = byteOrderMark then c.column else c.column + 1 }

/-- The place `n` characters further on. -/
def advance (c : Cursor) : Nat → Cursor
  | 0 => c
  | n + 1 => c.step.advance n

/-- A line of three marks stands here: it separates documents. -/
def atSeparator (c : Cursor) : Bool :=
  match c.rest with
  | '-' :: '-' :: '-' :: r | '.' :: '.' :: '.' :: r => endsToken r.head?
  | _ => false

@[simp] theorem length_rest_step (c : Cursor) : c.step.rest.length = c.rest.length - 1 := by
  unfold step
  split
  · next h => simp [h]
  · next h => split <;> simp [h]

end Cursor

/-- A computation that moves a cursor forward. -/
abbrev Scan := StateT Cursor (Except Fault)

namespace Scan

/-- The character `n` places further on. -/
def ahead (n : Nat) : Scan (Option Char) := return (← get).ahead n

/-- The character here. -/
def here : Scan (Option Char) := ahead 0

/-- Move on by `n` characters. -/
def skip (n : Nat) : Scan Unit := modify (·.advance n)

/-- The next `n` characters. -/
def take (n : Nat) : Scan (List Char) := do
  let cs := (← get).rest.take n
  skip n
  return cs

/-- The characters up to the first that does not satisfy `p`. -/
def takeWhile (p : Char → Bool) : Scan (List Char) := do
  let cs := (← get).rest.takeWhile p
  skip cs.length
  return cs

/-- Move on past the spaces. -/
def skipSpaces : Scan Unit := discard (takeWhile (· = ' '))

/-- Move on to the end of the line if a comment starts here. -/
def skipComment : Scan Unit := do
  if (← here) = some '#' then discard (takeWhile fun c => !isBreak c)

/-- The line break here, if there is one; all but two kinds are read as a line feed. -/
def lineBreak : Scan (List Char) := do
  match ← here with
  | some c =>
    if isBreak c then
      skip (if c = '\r' ∧ (← ahead 1) = some '\n' then 2 else 1)
      return [if c.toNat = 0x2028 ∨ c.toNat = 0x2029 then c else '\n']
    else return []
  | none => return []

/-- Go on only if the condition holds. -/
def require (condition : Bool) : Scan Unit := if condition then pure () else throw .token

/-- What may follow a header on its line: spaces and a comment. -/
def restOfLine : Scan Unit := do
  skipSpaces
  skipComment
  require (endsLine (← here))
  discard lineBreak

/-- How many steps a loop can take that moves on in each of them. -/
def remaining : Scan Nat := return (← get).rest.length + 1

end Scan

end CompilerRunner.Yaml
