import CompilerRunner.Failure
import CompilerRunner.Options
import CompilerRunner.Text.Blank

/-!
# Options — Tokens

Options as arguments of the compiler, and arguments read back as options.  The order of the tokens
is fixed:

    SOURCE [-memory-model M] [-verbose] [-nomain] [-p KIND] [-g] [EXTRA...] -o OUTPUT

`tokens` writes them, `build` refuses a blank source or output first, and `ofTokens?` reads them
from left to right, taking each flag where the grammar allows it and all that is left as extra
arguments.
-/

namespace CompilerRunner.CompileOptions

/-- A flag that is there or not. -/
def switch (flag : String) (on : Bool) : List String := if on then [flag] else []

/-- A flag with a value, if there is one. -/
def setting (flag : String) (value : Option String) : List String :=
  match value with
  | some v => [flag, v]
  | none => []

/-- The tokens between the source and the extra arguments. -/
def flagTokens (o : CompileOptions) : List String :=
  setting "-memory-model" (o.memoryModel.map MemoryModel.text)
    ++ switch "-verbose" o.verbose
    ++ switch "-nomain" o.nomain
    ++ setting "-p" (o.outputKind.map OutputKind.text)
    ++ switch "-g" o.debug

/-- The arguments that the options stand for. -/
def tokens (o : CompileOptions) : List String :=
  o.source :: o.flagTokens ++ o.extraArguments ++ ["-o", o.output]

/-- The arguments to hand to the compiler, unless a path is blank. -/
def build (o : CompileOptions) : Except OptionsFault (List String) :=
  if Text.isBlank o.source then .error .blankSource
  else if Text.isBlank o.output then .error .blankOutput
  else .ok o.tokens

/-- The value after the flag, if both stand in front and the value is one of the choices. -/
def takeSetting {α : Type} (flag : String) (choices : List (String × α)) :
    List String → Option α × List String
  | f :: v :: rest =>
    if f = flag then
      match choices.lookup v with
      | some a => (some a, rest)
      | none => (none, f :: v :: rest)
    else (none, f :: v :: rest)
  | ts => (none, ts)

/-- The flag, if it stands in front. -/
def takeSwitch (flag : String) : List String → Bool × List String
  | f :: rest => if f = flag then (true, rest) else (false, f :: rest)
  | [] => (false, [])

/-- The options with the source and the output, whose other arguments are `middle`. -/
def ofMiddle (source output : String) (middle : List String) : CompileOptions :=
  let (memoryModel, r₁) := takeSetting "-memory-model" MemoryModel.choices middle
  let (verbose, r₂) := takeSwitch "-verbose" r₁
  let (nomain, r₃) := takeSwitch "-nomain" r₂
  let (outputKind, r₄) := takeSetting "-p" OutputKind.choices r₃
  let (debug, extraArguments) := takeSwitch "-g" r₄
  { source, output, memoryModel, verbose, nomain, outputKind, debug, extraArguments }

/-- The options that arguments stand for. -/
def ofTokens? : List String → Option CompileOptions
  | source :: rest =>
    match rest.reverse with
    | output :: "-o" :: middle => some (ofMiddle source output middle.reverse)
    | _ => none
  | [] => none

end CompilerRunner.CompileOptions
