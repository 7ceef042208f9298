import CompilerRunner.Options
import CompilerRunner.Validation.Collection

/-!
# Options — Validation

Compile options from untyped data.  Each field is checked on its own, in the order of declaration,
and no field but the eight declared ones may be present.  `canonical` writes options back as data,
every field spelled in one way.
-/

namespace CompilerRunner.CompileOptions

open Validation

/-- The names of the fields, in the order of declaration. -/
def fieldNames : List String :=
  ["source", "output", "memory_model", "verbose", "nomain", "output_kind", "debug",
    "extra_arguments"]

/-- The options that the fields of a mapping stand for. -/
def checkFields (es : Entries) : Checked CompileOptions :=
  CompileOptions.mk <$> required es "source" text
    <*> required es "output" text
    <*> withDefault es "memory_model" none (optional (choice MemoryModel.choices))
    <*> withDefault es "verbose" false flag
    <*> withDefault es "nomain" false flag
    <*> withDefault es "output_kind" none (optional (choice OutputKind.choices))
    <*> withDefault es "debug" false flag
    <*> withDefault es "extra_arguments" [] (sequence text)
    <* Checked.reject (foreignDefects fieldNames es)

/-- The options that the entries of a mapping stand for.  A key that does not consist of characters
alone stands in the way of everything else. -/
def check (es : Entries) : Checked CompileOptions :=
  if es.any fun e => hasUndecodableKey e then .fault .undecodableText else checkFields es

/-- What records of options are called. -/
def title : String := "CompileOptions"

/-- The options that a value stands for. -/
def ofValue (v : Value) : Except Rejection CompileOptions :=
  (record title check v).toExcept title

/-- The options as data: every field is present, in the order of declaration. -/
def canonical (o : CompileOptions) : Value :=
  .mapping
    [(.text "source", .text o.source),
      (.text "output", .text o.output),
      (.text "memory_model", (o.memoryModel.map fun m => Value.text m.text).getD .null),
      (.text "verbose", .bool o.verbose),
      (.text "nomain", .bool o.nomain),
      (.text "output_kind", (o.outputKind.map fun k => Value.text k.text).getD .null),
      (.text "debug", .bool o.debug),
      (.text "extra_arguments", .list (o.extraArguments.map .text))]

end CompilerRunner.CompileOptions
