import CompilerRunner.Shell.Syntax

/-!
# Shell — Reader

A place in the text of a script and computations that move it forward (`Reader`).  A token that was
read too early can be put back.  The text of a here-document is taken out of the script as soon as
its redirection is read; its lines are counted when the line of the redirection ends.
-/

namespace CompilerRunner.Shell

/-- The smallest parts of a script. -/
inductive Token where
  | word (w : Word)
  | redirection (r : Redirection)
  | newline
  | semicolon
  | background
  | both
  | either
  | pipe
  | opening
  | closing
  | endOfCase
  | endOfText

namespace Token

/-- The reserved word that a token is. -/
def reserved? : Token → Option String
  | .word w => (Word.plain? w).filter reservedWords.contains
  | _ => none

/-- The token is this reserved word. -/
def isReserved (t : Token) (s : String) : Bool := t.reserved? = some s

/-- The token ends a list of commands inside another command. -/
def isEnd : Token → Bool
  | .endOfText | .closing | .endOfCase => true
  | t => t.reserved?.any ["do", "done", "elif", "else", "esac", "fi", "then", "\x7d"].contains

/-- The token where no word is reserved. -/
def plainly : Token → Token
  | .word w => .word (.quotes :: w)
  | t => t

/-- How a complaint names a token. -/
def name (t : Token) : String :=
  let quoted (s : String) : String := "\"" ++ s ++ "\""
  match t with
  | .word _ => (t.reserved?.map quoted).getD "word"
  | .redirection _ => "redirection"
  | .newline => "newline"
  | .semicolon => quoted ";"
  | .background => quoted "&"
  | .both => quoted "&&"
  | .either => quoted "||"
  | .pipe => quoted "|"
  | .opening => quoted "("
  | .closing => quoted ")"
  | .endOfCase => quoted ";;"
  | .endOfText => "end of file"

end Token

/-- What is wrong with a script, and in which line. -/
structure SyntaxFault where
  line : Nat
  message : String
deriving DecidableEq

/-- A place in a script: the text that follows it, its line, the lines of here-documents that come
before the next line, and the token that was put back. -/
structure Cursor where
  rest : List Char
  line : Nat := 1
  held : Nat := 0
  pending : Option Token := none

/-- A computation that moves a cursor forward. -/
abbrev Reader := StateT Cursor (Except SyntaxFault)

namespace Reader

/-- The script is wrong here. -/
def fail {α : Type} (message : String) : Reader α := do
  throw ⟨(← get).line, message⟩

/-- A token is out of place; another one may be needed. -/
def unexpected {α : Type} (t : Token) (expected : Option String) : Reader α :=
  fail (t.name ++ " unexpected" ++
    (expected.elim "" fun e => " (expecting \"" ++ e ++ "\")"))

/-- The character here. -/
def here : Reader (Option Char) := return (← get).rest.head?

/-- The text that follows. -/
def rest : Reader (List Char) := return (← get).rest

/-- Move on by so many characters. -/
def skip (n : Nat) : Reader Unit :=
  modify fun c => { c with
    rest := c.rest.drop n
    line := c.line + (c.rest.take n).count '\n' }

/-- Move on past the character if it stands here. -/
def skipIf (c : Char) : Reader Bool := do
  if (← here) = some c then
    skip 1
    return true
  else return false

/-- The characters up to the first that does not satisfy `p`. -/
def takeWhile (p : Char → Bool) : Reader (List Char) := do
  let cs := (← rest).takeWhile p
  skip cs.length
  return cs

/-- Put a token back. -/
def putBack (t : Token) : Reader Unit := modify fun c => { c with pending := some t }

/-- Move on to the next line. -/
def nextLine : Reader Unit :=
  modify fun c => { c with rest := c.rest.drop 1, line := c.line + 1 + c.held, held := 0 }

/-- Move on past blanks, line ends behind a backslash, and a remark. -/
def skipBlanks : (fuel : Nat) → Reader Unit
  | 0 => return
  | fuel + 1 => do
    match ← rest with
    | '\\' :: '\n' :: _ =>
      skip 2
      skipBlanks fuel
    | ' ' :: _ | '\t' :: _ =>
      skip 1
      skipBlanks fuel
    | '#' :: _ =>
      let _ ← takeWhile (· ≠ '\n')
      skipBlanks fuel
    | _ => return

/-- The result of reading another text up to its end, in the place of the rest of the script. -/
def within {α : Type} (text : List Char) (read : Reader α) : Reader α := do
  let c ← get
  set { c with rest := text, held := 0, pending := none }
  let a ← read
  set c
  return a

/-- The lines of a here-document up to its end, and the text after it. -/
def documentLines (delimiter : String) (drops : Bool) :
    (fuel : Nat) → List Char → List (List Char) × List Char
  | 0, cs => ([], cs)
  | _, [] => ([], [])
  | fuel + 1, cs =>
    let line := cs.takeWhile (· ≠ '\n')
    let after := cs.drop (line.length + 1)
    let line := if drops then line.dropWhile (· = '\t') else line
    if line = delimiter.toList then ([], after)
    else
      let (lines, after) := documentLines delimiter drops fuel after
      (line :: lines, after)

/-- The text of the here-document that starts in the next line, taken out of the script. -/
def takeDocument (delimiter : String) (drops : Bool) : Reader (List Char) := do
  let c ← get
  let line := c.rest.takeWhile (· ≠ '\n')
  let below := c.rest.drop (line.length + 1)
  let (lines, after) := documentLines delimiter drops (below.length + 1) below
  let lineEnds := (below.take (below.length - after.length)).count '\n'
  set { c with rest := line ++ '\n' :: after, held := c.held + lineEnds }
  return lines.flatMap (· ++ ['\n'])

end Reader

end CompilerRunner.Shell
