/-!
# Yaml — Token

The tokens of a document.  The block structure is told by tokens of its own: a start for each column
where a collection begins, and an end where the indentation goes back.
-/

namespace CompilerRunner.Yaml

/-- What a line that starts with a percent sign says. -/
inductive Directive where
  | version (major minor : Nat)
  | tag (handle uri : String)
  | other
deriving DecidableEq

/-- The smallest parts of a document.  A scalar is plain if it stands without quotes. -/
inductive Token where
  | streamEnd
  | directive (d : Directive)
  | documentStart
  | documentEnd
  | blockSequenceStart
  | blockMappingStart
  | blockEnd
  | flowSequenceStart
  | flowMappingStart
  | flowSequenceEnd
  | flowMappingEnd
  | blockEntry
  | flowEntry
  | key
  | value
  | alias (name : String)
  | anchor (name : String)
  | tag (handle : Option String) (suffix : String)
  | scalar (text : String) (plain : Bool)
deriving DecidableEq

end CompilerRunner.Yaml
