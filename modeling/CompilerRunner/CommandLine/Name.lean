import CompilerRunner.Text.Blank

/-!
# CommandLine — Name

Names as they are spelled on a command line: in small letters, with hyphens between their words.  A
name written in another way is brought into this form (`Name.spelling`), so that one choice can be
asked for as `library`, `Library` or `LIBRARY`.  A capital letter starts a new word after a small
letter or a digit, and so does the last of several capitals before a small letter.
-/

namespace CompilerRunner.CommandLine.Name

/-- A capital letter of ASCII. -/
def isCapital (c : Char) : Bool := 'A' ≤ c && c ≤ 'Z'

/-- A small letter of ASCII. -/
def isSmall (c : Char) : Bool := 'a' ≤ c && c ≤ 'z'

/-- An underscore before the last of several capitals that a small letter follows. -/
def splitCapitals : List Char → List Char
  | c :: d :: e :: rest =>
    if isCapital c && isCapital d && isSmall e then c :: '_' :: splitCapitals (d :: e :: rest)
    else c :: splitCapitals (d :: e :: rest)
  | cs => cs

/-- An underscore between a character of the first kind and one of the second that follows it. -/
def splitBetween (first second : Char → Bool) : List Char → List Char
  | c :: d :: rest =>
    if first c && second d then c :: '_' :: splitBetween first second (d :: rest)
    else c :: splitBetween first second (d :: rest)
  | cs => cs

/-- The sign of the kelvin, a capital K of its own. -/
def kelvin : Char := Char.ofNat 0x212A

/-- The small letter of ASCII that belongs to a capital one. -/
def small (c : Char) : Char := if c = kelvin then 'k' else c.toLower

/-- The spelling of a name. -/
def spelling (name : String) : String :=
  let words := splitBetween isSmall Char.isDigit <| splitBetween Char.isDigit isCapital <|
    splitBetween isSmall isCapital <| splitCapitals name.toList
  String.ofList <| Text.trimBoth (· = '-') <|
    words.map fun c => if c = '_' then '-' else small c

example : spelling "Library" = "library" ∧ spelling "LIBRARY" = "library" := by decide +kernel
example : spelling "PascalCase" = "pascal-case" := by decide +kernel

end CompilerRunner.CommandLine.Name
