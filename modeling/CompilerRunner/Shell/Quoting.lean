import CompilerRunner.Shell.Syntax

/-!
# Shell — Quoting

Words written so that a shell reads them back as they are.  `quote` writes one word, `joinWords` a
list of words with spaces between them, and `splitWords?` reads such a line by the rules for words:
blanks and line feeds outside quotes separate, a backslash keeps the next character, pieces that
touch are one word.  It refuses a line in which the shell would replace something.
-/

namespace CompilerRunner.Shell

/-- A character that stands for itself in every place of a word. -/
def isPlain (c : Char) : Bool := c.isAlphanum || "_@%+=:,./-".toList.contains c

/-- The characters of a quoted word: a single quote ends the quotation, stands between double
quotes, and opens the quotation again. -/
def quoteChar (c : Char) : List Char := if c = '\'' then "'\"'\"'".toList else [c]

/-- A word as it is written. -/
def quote (word : List Char) : List Char :=
  if word ≠ [] ∧ word.all isPlain then word else '\'' :: word.flatMap quoteChar ++ ['\'']

/-- A line of words. -/
def joinWords (words : List String) : String :=
  String.intercalate " " (words.map fun w => String.ofList (quote w.toList))

/-- A character for which the shell does more than to take it, outside quotes. -/
def isSpecial (c : Char) : Bool := c = Char.ofNat 0x60 || "|&;<>()$*?[#~".toList.contains c

/-- What a backslash keeps between double quotes. -/
def isKept (c : Char) : Bool := c = Char.ofNat 0x60 || "$\"\\".toList.contains c

/-- Where a reader of words stands, with what it has read of a word. -/
inductive Place where
  | between
  | bare (read : List Char)
  | single (read : List Char)
  | double (read : List Char)

/-- What has been read of a word. -/
def Place.read : Place → List Char
  | .between => []
  | .bare r | .single r | .double r => r

/-- The words of the rest of a line. -/
def wordsFrom : Place → List Char → Option (List (List Char))
  | .single r, '\'' :: rest => wordsFrom (.bare r) rest
  | .single r, c :: rest => wordsFrom (.single (r ++ [c])) rest
  | .double r, '"' :: rest => wordsFrom (.bare r) rest
  | .double r, '\\' :: '\n' :: rest => wordsFrom (.double r) rest
  | .double r, '\\' :: c :: rest =>
    wordsFrom (.double (r ++ if isKept c then [c] else ['\\', c])) rest
  | .double r, c :: rest =>
    if c = '$' ∨ c = Char.ofNat 0x60 then none else wordsFrom (.double (r ++ [c])) rest
  | .single _, [] | .double _, [] => none
  | .between, [] => some []
  | .bare r, [] => some [r]
  | p, '\'' :: rest => wordsFrom (.single p.read) rest
  | p, '"' :: rest => wordsFrom (.double p.read) rest
  | p, '\\' :: '\n' :: rest => wordsFrom p rest
  | p, '\\' :: c :: rest => wordsFrom (.bare (p.read ++ [c])) rest
  | .between, c :: rest =>
    if isSeparating c then wordsFrom .between rest
    else if isSpecial c then none
    else wordsFrom (.bare [c]) rest
  | .bare r, c :: rest =>
    if isSeparating c then (wordsFrom .between rest).map (r :: ·)
    else if isSpecial c then none
    else wordsFrom (.bare (r ++ [c])) rest

/-- The words of a line, unless a quotation is left open or something would be replaced. -/
def splitWords? (line : String) : Option (List String) :=
  (wordsFrom .between line.toList).map fun ws => ws.map String.ofList

example : joinWords ["a b", "", "it's"] = "'a b' '' 'it'\"'\"'s'" := by decide +kernel
example : splitWords? "'a b' '' 'it'\"'\"'s'" = some ["a b", "", "it's"] := by decide +kernel

end CompilerRunner.Shell
