/-!
# Validation — Defect

What can be wrong with untyped data, and where.  A `Defect` is a `Fault` at a place; a place is the
steps that lead to it from the whole.  `Fault.message` is the one place where the wording of a fault
stands.
-/

namespace CompilerRunner

/-- One step into a value: the name of a field or key, or a position. -/
inductive Step where
  | name (s : String)
  | index (n : Int)
deriving DecidableEq

/-- What is wrong with a value. -/
inductive Fault where
  | missing
  | unexpectedField
  | keyNotText
  | notText
  | undecodableText
  | notFlag
  | unreadableFlag
  | notOneOf (choices : List String)
  | notSequence
  | notMapping
  | notRecord (title : String)
  | notNumber
  | unreadableNumber
  | notGreaterThan (bound : Int)
  | notInteger
  | unreadableInteger
  | oversizedInteger
  | fractionalInteger
  | infiniteInteger
  | notPath
  | frozen
deriving DecidableEq

/-- The choices in quotes, with `or` before the last. -/
def alternatives : List String → String
  | [] => ""
  | [c] => "'" ++ c ++ "'"
  | [c, d] => "'" ++ c ++ "' or '" ++ d ++ "'"
  | c :: rest => "'" ++ c ++ "', " ++ alternatives rest

/-- The wording of a fault. -/
def Fault.message : Fault → String
  | .missing => "Field required"
  | .unexpectedField => "Extra inputs are not permitted"
  | .keyNotText => "Keys should be strings"
  | .notText => "Input should be a valid string"
  | .undecodableText =>
    "Input should be a valid string, unable to parse raw data as a unicode string"
  | .notFlag => "Input should be a valid boolean"
  | .unreadableFlag => "Input should be a valid boolean, unable to interpret input"
  | .notOneOf choices => "Input should be " ++ alternatives choices
  | .notSequence => "Input should be a valid tuple"
  | .notMapping => "Input should be a valid dictionary"
  | .notRecord title => "Input should be a valid dictionary or instance of " ++ title
  | .notNumber => "Input should be a valid number"
  | .unreadableNumber => "Input should be a valid number, unable to parse string as a number"
  | .notGreaterThan bound => "Input should be greater than " ++ toString bound
  | .notInteger => "Input should be a valid integer"
  | .unreadableInteger => "Input should be a valid integer, unable to parse string as an integer"
  | .oversizedInteger => "Unable to parse input string as an integer, exceeded maximum size"
  | .fractionalInteger =>
    "Input should be a valid integer, got a number with a fractional part"
  | .infiniteInteger => "Input should be a finite number"
  | .notPath => "Input is not a valid path for <class 'pathlib.Path'>"
  | .frozen => "Instance is frozen"

/-- A fault and the steps that lead to it. -/
structure Defect where
  steps : List Step
  fault : Fault
deriving DecidableEq

/-- The defects of data that was to become a record. -/
structure Rejection where
  title : String
  defects : List Defect
deriving DecidableEq

end CompilerRunner
