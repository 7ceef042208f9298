/-!
# Yaml — Fault

Why a document cannot be read.  The faults of the format come from five layers, from the characters
up to the values.  Beside them stand the accidents of a scalar whose tag promises more than its text
keeps: they are no faults of the format and are reported as what they are.
-/

namespace CompilerRunner.Yaml

/-- What can go wrong where a scalar is given its value. -/
inductive Accident where
  | malformed
  | unknownWord
  | noMatch
  | emptyText
  | outOfRange
  | notText
  | endless
deriving DecidableEq

/-- Why a document cannot be read. -/
inductive Fault where
  | character
  | token
  | nesting
  | composition
  | construction
  | accident (kind : Accident)
deriving DecidableEq

end CompilerRunner.Yaml
