/-!
# Shell — Syntax

The commands of the POSIX shell language.  A word is a list of parts, which stand for text; a part
may hold commands of its own, whose output it stands for.
-/

namespace CompilerRunner.Shell

/-- What a parameter is replaced by if it has no value, or if it has one. -/
inductive Instead where
  | fallback
  | assignment
  | complaint
  | alternative
deriving DecidableEq

mutual

/-- A part of a word.  What a quoted part stands for is never split into several words. -/
inductive Part where
  | text (s : String) (quoted : Bool)
  | quotes
  | output (c : Command) (quoted : Bool)
  | parameter (name : String) (use : Use) (quoted : Bool)
  | arithmetic (expression : List Part)

/-- What is made of a parameter: its value, the length of the value, another word instead of it
(where an empty value may count as missing), the value without what matches a pattern at its start
or end, or nothing that makes sense. -/
inductive Use where
  | value
  | length
  | instead (kind : Instead) (emptyIsMissing : Bool) (word : List Part)
  | without (atEnd longest : Bool) (pattern : List Part)
  | senseless

/-- An input or output, by its number, that comes from or goes to another place. -/
inductive Redirection where
  | write (number : Nat) (path : List Part) (appends : Bool)
  | read (number : Nat) (path : List Part)
  | copy (number : Nat) (other : List Part)
  | document (number : Nat) (text : List Part)

/-- A command; some know the line that they start in. -/
inductive Command where
  | simple (line : Nat) (assignments : List (String × List Part)) (words : List (List Part))
      (redirections : List Redirection)
  | sequence (first second : Command)
  | both (first second : Command)
  | either (first second : Command)
  | negation (c : Command)
  | pipeline (commands : List Command)
  | background (c : Command)
  | redirected (c : Command) (redirections : List Redirection)
  | subshell (line : Nat) (c : Command)
  | loop (stopsWhen : Bool) (condition body : Command)
  | each (line : Nat) (name : String) (words : Option (List (List Part))) (body : Command)
  | branch (condition yes : Command) (no : Option Command)
  | choice (line : Nat) (subject : List Part) (cases : List (List (List Part) × Option Command))
  | definition (name : String) (body : Command)

end

/-- A word before its parameters are replaced. -/
abbrev Word := List Part

/-- A character that a name may start with. -/
def isNameStart (c : Char) : Bool := c.isAlpha || c = '_'

/-- A character of a name. -/
def isNameChar (c : Char) : Bool := c.isAlphanum || c = '_'

/-- The text is the name of a variable. -/
def isName (s : String) : Bool := s.toList.head?.any isNameStart && s.toList.all isNameChar

/-- The parameters that are no variables, apart from the arguments by their numbers. -/
def isSpecialParameter (c : Char) : Bool := "@*#?-$!".toList.contains c

/-- A space, a tab or a line feed: it separates words. -/
def isSeparating (c : Char) : Bool := c = ' ' || c = '\t' || c = '\n'

/-- The text of a word that is nothing but unquoted text. -/
def Word.plain? (w : Word) : Option String :=
  String.join <$> w.mapM fun
    | .text s false => some s
    | _ => none

/-- The words with a meaning of their own where a command can start. -/
def reservedWords : List String :=
  ["!", "case", "do", "done", "elif", "else", "esac", "fi", "for", "if", "in", "then", "until",
    "while", "\x7b", "\x7d"]

/-- The builtin commands that belong to the language itself: an error in one ends the shell, and no
function can have the name of one. -/
def specialBuiltins : List String :=
  [".", ":", "break", "continue", "eval", "exec", "exit", "export", "local", "readonly", "return",
    "set", "shift", "times", "trap", "unset"]

end CompilerRunner.Shell
