import CompilerRunner.Options.Validation
import CompilerRunner.Options.Tokens
import CompilerRunner.Validation.Collection

/-!
# Settings

What the settings files say, merged.  A target is kept as it is written and checked when it is asked
for, so that a broken one does not stand in the way of the others; the same holds of the
configuration of an entry point.
-/

namespace CompilerRunner

/-- The merged content of the settings files.  The compiler runs in `currentDirectory`, unless
another one is configured for the entry point. -/
structure Settings where
  entryPoint : String := "subprocess"
  components : Table (Table (Table Value)) := []
  targets : Table (Table Value) := []
  currentDirectory : Option Path := none

namespace Settings

open Validation

/-- What records of settings are called. -/
def title : String := "Settings"

/-- The settings that the entries of a mapping stand for; other entries are ignored. -/
def check (es : Entries) : Checked Settings :=
  Settings.mk <$> withDefault es "entry_point" "subprocess" text
    <*> withDefault es "components" [] (table (table (table anything)))
    <*> withDefault es "targets" [] (table (table anything))
    <*> withDefault es "current_dir" none (optional path)

/-- The settings that a value stands for. -/
def ofValue (v : Value) : Except Rejection Settings := (record title check v).toExcept title

/-- A table as the entries of a mapping. -/
def entriesOf (t : Table Value) : Entries := t.map fun e => (.text e.1, e.2)

theorem field?_entriesOf (t : Table Value) (name : String) :
    (entriesOf t).field? name = t.get? name := by
  unfold entriesOf Entries.field?
  induction t with
  | nil => rfl
  | cons e rest ih =>
    by_cases h : e.1 = name <;>
      simp [Entries.get?, Table.get?, Value.sameKey, Value.sameScalar, h, ih]

/-- The names of the targets in increasing order. -/
def targetNames (s : Settings) : List String := Text.sorted s.targets.names

/-- The options of the target. -/
def target (s : Settings) (name : String) : Except Failure CompileOptions :=
  match s.targets.get? name with
  | none => .error (.settings (.unknownTarget name s.targetNames))
  | some t =>
    (CompileOptions.ofValue (.mapping (entriesOf t))).mapError fun r =>
      .options (.invalidTarget name r)

/-- The arguments that the target stands for. -/
def targetTokens (s : Settings) (name : String) : Except Failure (List String) := do
  (← s.target name).build.mapError .options

/-- The configuration of the implementation of a component that is registered under the key. -/
def configuration (s : Settings) (registry key : String) : Table Value :=
  ((s.components.get? registry).bind (Table.get? · key)).getD []

end Settings

end CompilerRunner
