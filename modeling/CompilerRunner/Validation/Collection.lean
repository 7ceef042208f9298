import CompilerRunner.Table
import CompilerRunner.Validation.Checked
import CompilerRunner.Validation.Scalar
import CompilerRunner.Value.Knot
import CompilerRunner.Value.Literal

/-!
# Validation — Collection

Checks of sequences, tables and records.  An element is checked at its position, an entry of a table
at its key, a field of a record at its name; every part is checked, whatever was wrong with the
parts before it.  What has to hold of a field for it to be accepted is `required_eq_valid_iff` and
`withDefault_eq_valid_iff`.
-/

namespace CompilerRunner.Validation

variable {α : Type}

/-- The outcomes of checking the items at the positions from `n` on. -/
def elements (check : Value → Checked α) (n : Nat) : List Value → List (Checked α)
  | [] => []
  | v :: vs => (check v).within (.index n) :: elements check (n + 1) vs

/-- A sequence of elements that the check accepts. -/
def sequence (check : Value → Checked α) (v : Value) : Checked (List α) :=
  match v.opened with
  | .list vs | .tuple vs | .set vs => .each (elements check 0 vs)
  | _ => .fault .notSequence

/-- The step to a key: a text or a number as it is, any other key by its literal.  A number that
sixty-four bits do not hold counts as such a key, and what is no character of a text is lost. -/
def keyStep : Value → Step
  | .text s => .name (Text.lossy s)
  | .bool b => .index (if b then 1 else 0)
  | .integer n => if isWord n then .index n else .name (Value.literal (.integer n))
  | v => .name v.literal

/-- One entry of a table: the fault of a key lies one step further in. -/
def entry (check : Value → Checked α) (e : Value × Value) : Checked (String × α) :=
  let key := ((text e.1).within (.name "[key]")).within (keyStep e.1)
  .seq (key.map Prod.mk) ((check e.2).within (keyStep e.1))

/-- A table from texts to values that the check accepts; of several keys with one text the last
decides. -/
def table (check : Value → Checked α) (v : Value) : Checked (Table α) :=
  match v.opened with
  | .mapping es => (Checked.each (es.map (entry check))).map fun t => Table.overlay [] t
  | _ => .fault .notMapping

/-- Any value at all. -/
def anything (v : Value) : Checked Value := .valid v

/-- A field that must be present. -/
def required (es : Entries) (name : String) (check : Value → Checked α) : Checked α :=
  (match es.field? name with
    | some v => check v
    | none => .fault .missing).within (.name name)

/-- A field that stands for `default` when it is absent. -/
def withDefault (es : Entries) (name : String) (default : α) (check : Value → Checked α) :
    Checked α :=
  match es.field? name with
  | some v => (check v).within (.name name)
  | none => .valid default

/-- The defect of an entry under a key that no field has.  Only a text is the key of a field, and no
other key counts as a text, not even in bytes. -/
def foreignDefect (known : List String) (key : Value) : Option Defect :=
  match key with
  | .text s => if known.contains s then none else some ⟨[keyStep key], .unexpectedField⟩
  | _ => some ⟨[keyStep key], .keyNotText⟩

/-- The key of the entry is a text that does not consist of characters alone. -/
def hasUndecodableKey (e : Value × Value) : Bool :=
  match e.1 with
  | .text s => Text.hasSurrogate s
  | _ => false

/-- The defects of the entries that are no fields, in the order of the entries. -/
def foreignDefects (known : List String) (es : Entries) : List Defect :=
  es.filterMap fun e => foreignDefect known e.1

/-- The entries of the mapping that a record is made of. -/
def record (title : String) (check : Entries → Checked α) (v : Value) : Checked α :=
  match v.opened with
  | .mapping es => check es
  | _ => .fault (.notRecord title)

section Valid

variable {check : Value → Checked α} {es : Entries} {name : String} {a : α}

/-- The text that a key is, or is read as. -/
def nameOf? (key : Value) : Option String := (text key).value?

theorem entry_eq_valid_iff {e : Value × Value} :
    entry check e = .valid (name, a) ↔ nameOf? e.1 = some name ∧ check e.2 = .valid a := by
  rw [nameOf?, Checked.value?_eq_some_iff]
  simp only [entry, Checked.seq_eq_valid_iff, Checked.map_eq_valid_iff,
    Checked.within_eq_valid_iff]
  constructor
  · rintro ⟨_, a', ⟨k, hk, rfl⟩, ha, h⟩
    obtain ⟨rfl, rfl⟩ := Prod.mk.inj h
    exact ⟨hk, ha⟩
  · rintro ⟨hk, ha⟩
    exact ⟨_, a, ⟨name, hk, rfl⟩, ha, rfl⟩

theorem required_eq_valid_iff :
    required es name check = .valid a ↔ ∃ v, es.field? name = some v ∧ check v = .valid a := by
  unfold required
  cases es.field? name <;> simp [Checked.within_eq_valid_iff, Checked.fault]

theorem withDefault_eq_valid_iff {default : α} :
    withDefault es name default check = .valid a ↔
      (es.field? name = none ∧ default = a) ∨
        ∃ v, es.field? name = some v ∧ check v = .valid a := by
  unfold withDefault
  cases es.field? name <;> simp [Checked.within_eq_valid_iff]

end Valid

end CompilerRunner.Validation
