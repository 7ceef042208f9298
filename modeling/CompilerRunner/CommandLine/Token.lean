import CompilerRunner.CommandLine.Number

/-!
# CommandLine — Token

The kinds of words on a command line.  A word that starts with a hyphen is taken for an option,
unless it is a number.  Words after the delimiter `--` are taken as they are.
-/

namespace CompilerRunner.CommandLine

/-- The word that ends the options. -/
def delimiter : String := "--"

/-- The words that ask for help. -/
def helpWords : List String := ["--help", "-h"]

/-- The words that ask for the version. -/
def versionWords : List String := ["--version"]

/-- The word looks like an option. -/
def isOptionLike (word : String) : Bool := word.toList.head? = some '-' && !isNumber word

example : isOptionLike "-x" ∧ ¬ isOptionLike "x" := by decide +kernel

/-- The part of an option before the first equals sign, and the value after it. -/
def splitValue (word : String) : String × Option String :=
  let cs := word.toList
  (String.ofList (cs.takeWhile (· ≠ '=')),
    match cs.dropWhile (· ≠ '=') with
    | _ :: value => some (String.ofList value)
    | [] => none)

/-- The words before the delimiter and the words after it. -/
def splitAtDelimiter (words : List String) : List String × List String :=
  (words.takeWhile (· ≠ delimiter), (words.dropWhile (· ≠ delimiter)).drop 1)

end CompilerRunner.CommandLine
