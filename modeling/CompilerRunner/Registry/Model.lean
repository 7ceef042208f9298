import CompilerRunner.EntryPoint.Configuration

/-!
# Registry — Model

What the configuration of a registered class is checked by: the fields of one of the shipped entry
points, or a list of fields of its own.  The outcome is what the class is made with.
-/

namespace CompilerRunner.Registry

open Validation

/-- What a field holds. -/
inductive FieldKind where
  | text
  | integer
  | flag
  | positiveNumber
  | sequence
  | table
  | path
deriving DecidableEq

/-- A field of a configuration; it must be given if it has no default. -/
structure Field where
  name : String
  kind : FieldKind
  default : Option Value := none

/-- The check of a field, as the value that it is given. -/
def FieldKind.check : FieldKind → Value → Checked Value
  | .text, v => (Validation.text v).map .text
  | .integer, v => (Validation.integer v).map .integer
  | .flag, v => (Validation.flag v).map .bool
  | .positiveNumber, v =>
    (Validation.optional Validation.positiveNumber v).map fun x => (x.map Value.float).getD .null
  | .sequence, v => (Validation.sequence Validation.text v).map fun ss => .tuple (ss.map .text)
  | .table, v =>
    (Validation.table Validation.text v).map fun t =>
      .mapping (t.map fun e => (.text e.1, .text e.2))
  | .path, v =>
    (Validation.optional Validation.path v).map fun p =>
      (p.map fun q => Value.text q.text).getD .null

/-- The value of a field in the entries of a mapping. -/
def Field.check (es : Entries) (f : Field) : Checked (String × Value) :=
  (match f.default with
    | some d => withDefault es f.name d f.kind.check
    | none => required es f.name f.kind.check).map fun v => (f.name, v)

/-- What the configuration of a class is checked by. -/
inductive Model where
  | fields (fs : List Field)
  | entryPoint (kind : EntryPoint.Kind)

/-- What a class is made with by its configuration. -/
inductive Configured where
  | values (t : Table Value)
  | entryPoint (e : EntryPoint)

/-- What records of own fields are called. -/
def Model.title : String := "Extra"

/-- The configuration that the entries stand for, in settings for the directory `current`. -/
def Model.check (m : Model) (current : Option Path) (es : Entries) : Except Rejection Configured :=
  match m with
  | .fields fs => .values <$> (Checked.each (fs.map (Field.check es))).toExcept Model.title
  | .entryPoint kind => .entryPoint <$> EntryPoint.ofFields kind current es

end CompilerRunner.Registry
