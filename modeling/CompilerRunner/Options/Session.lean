import CompilerRunner.Options.Tokens
import CompilerRunner.Options.Validation

/-!
# Options — Session

Steps over one current options object.  Options never change: an assignment to a field is refused,
declared or not, and only data that is accepted replaces the current object.  A name that starts
with an underscore is no field's: what is assigned to it is kept beside the fields, where nothing
here looks.
-/

namespace CompilerRunner.CompileOptions

/-- A step over the current options. -/
inductive Command where
  | validate (data : Value)
  | assign (field : String) (value : Value)
  | build
  | compare (data : Value)

/-- What a step answers. -/
inductive Answer where
  | options (o : CompileOptions)
  | tokens (ts : List String)
  | equal (same : Bool)
  | done

/-- Whether a field could have the name: one that starts with an underscore is an attribute's
only. -/
def isFieldName (name : String) : Bool := name.toList.head? ≠ some '_'

/-- The refusal of an assignment. -/
def frozenField (field : String) : Rejection := ⟨title, [⟨[.name field], .frozen⟩]⟩

/-- The step's answer, and the options that are current after it. -/
def step (current : Option CompileOptions) (c : Command) :
    Except Failure Answer × Option CompileOptions :=
  match c with
  | .validate data =>
    match ofValue data with
    | .ok o => (.ok (.options o), some o)
    | .error r => (.error (.rejected r), current)
  | .assign field _ =>
    match current with
    | some _ =>
      if isFieldName field then (.error (.rejected (frozenField field)), current)
      -- An object's class can only be another class, and no value is one.
      else if field = "__class__" then (.error (.crash .wrongType), current)
      else (.ok .done, current)
    | none => (.error (.crash .unknownAttribute), current)
  | .build =>
    match current with
    | some o =>
      match o.build with
      | .ok ts => (.ok (.tokens ts), current)
      | .error f => (.error (.options f), current)
    | none => (.error (.crash .unknownAttribute), current)
  | .compare data =>
    match ofValue data with
    | .ok o => (.ok (.equal (current = some o)), current)
    | .error r => (.error (.rejected r), current)

/-- The answers of several steps, one after the other. -/
def session (current : Option CompileOptions) : List Command → List (Except Failure Answer)
  | [] => []
  | c :: cs => (step current c).1 :: session (step current c).2 cs

end CompilerRunner.CompileOptions
