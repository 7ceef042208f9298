/-!
# Options

The options of one compilation.  Paths are plain texts: they are handed to the compiler as they are.
The spellings of memory models and output kinds stand in one list each, from which both directions
are read.
-/

namespace CompilerRunner

/-- How the compiled program manages memory. -/
inductive MemoryModel where
  | strict
  | relaxed
  | experimental
deriving DecidableEq

/-- What the compiler produces. -/
inductive OutputKind where
  | program
  | static
  | dynamic
  | framework
  | library
  | bitcode
deriving DecidableEq

/-- The spelling of a memory model, for the compiler and in settings. -/
def MemoryModel.text : MemoryModel → String
  | .strict => "strict"
  | .relaxed => "relaxed"
  | .experimental => "experimental"

/-- The memory models by their spelling. -/
def MemoryModel.choices : List (String × MemoryModel) :=
  [MemoryModel.strict, .relaxed, .experimental].map fun m => (m.text, m)

/-- The spelling of an output kind, for the compiler and in settings. -/
def OutputKind.text : OutputKind → String
  | .program => "program"
  | .static => "static"
  | .dynamic => "dynamic"
  | .framework => "framework"
  | .library => "library"
  | .bitcode => "bitcode"

/-- The output kinds by their spelling. -/
def OutputKind.choices : List (String × OutputKind) :=
  [OutputKind.program, .static, .dynamic, .framework, .library, .bitcode].map fun k => (k.text, k)

/-- The options of one compilation. -/
structure CompileOptions where
  source : String
  output : String
  memoryModel : Option MemoryModel := none
  verbose : Bool := false
  nomain : Bool := false
  outputKind : Option OutputKind := none
  debug : Bool := false
  extraArguments : List String := []
deriving DecidableEq

@[simp] theorem MemoryModel.lookup_choices (m : MemoryModel) :
    MemoryModel.choices.lookup m.text = some m := by
  cases m <;> decide

@[simp] theorem OutputKind.lookup_choices (k : OutputKind) :
    OutputKind.choices.lookup k.text = some k := by
  cases k <;> decide

end CompilerRunner
