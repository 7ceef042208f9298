import CompilerRunner.Decimal.Shortest
import CompilerRunner.Text.Quoted
import CompilerRunner.Value

/-!
# Value — Literal

How a value is written in messages.  `literal` is its unambiguous form: texts are quoted, and a
collection is written between its brackets.  `display` is the form for a reader: a text stands for
itself, and dates are written plainly; inside a collection the literal form is used.  Where a
collection is reached again inside itself, dots stand for it.
-/

namespace CompilerRunner.Value

/-- The text of a whole number. -/
def integerText (n : Int) : String :=
  if n < 0 then "-" ++ toString n.natAbs else toString n.natAbs

/-- A constructor's name applied to whole numbers. -/
def application (name : String) (arguments : List String) : String :=
  name ++ "(" ++ String.intercalate ", " arguments ++ ")"

/-- The literal of a duration of whole minutes, in days and seconds. -/
def offsetLiteral (minutes : Int) : String :=
  let seconds := minutes * 60
  let days := Int.fdiv seconds 86400
  let rest := Int.fmod seconds 86400
  let part (name : String) (n : Int) : List String :=
    if n = 0 then [] else [name ++ "=" ++ integerText n]
  let arguments := part "days" days ++ part "seconds" rest
  application "datetime.timedelta" (if arguments.isEmpty then ["0"] else arguments)

/-- The literal of a date. -/
def dateLiteral (d : Date) : String :=
  application "datetime.date" [toString d.year, toString d.month, toString d.day]

/-- The literal of a moment: trailing zeros of the time are left out, up to the minutes. -/
def momentLiteral (t : Moment) : String :=
  let fine : List String :=
    if t.microsecond ≠ 0 then [toString t.second, toString t.microsecond]
    else if t.second ≠ 0 then [toString t.second]
    else []
  let zone : List String :=
    match t.offset with
    | none => []
    | some 0 => ["tzinfo=datetime.timezone.utc"]
    | some o => ["tzinfo=" ++ application "datetime.timezone" [offsetLiteral o]]
  application "datetime.datetime" <|
    [toString t.date.year, toString t.date.month, toString t.date.day, toString t.hour,
      toString t.minute] ++ fine ++ zone

/-- What stands for a collection that is reached again inside itself. -/
def dots : Value → String
  | .mapping _ => "\x7b...\x7d"
  | _ => "[...]"

/-- The form of a cell, if it is not one of those that it is reached from.  Each cell says how it is
written, given how the cells in it are; `fuel` is the number of cells that are not reached yet. -/
def cellForm (cells : List (Nat × String × ((Nat → String) → String))) :
    (fuel : Nat) → (reached : List Nat) → Nat → String
  | 0, _, n => ((cells.lookup n).map Prod.fst).getD ""
  | fuel + 1, reached, n =>
    match cells.lookup n with
    | some (dotted, form) =>
      if reached.contains n then dotted else form (cellForm cells fuel (n :: reached))
    | none => ""

mutual

/-- The unambiguous form of a value, where `shown` gives the forms of cells. -/
def literalWith (v : Value) (shown : Nat → String) : String :=
  match v with
  | .null => "None"
  | .bool b => if b then "True" else "False"
  | .integer n => integerText n
  | .float x => Decimal.floatText x
  | .text s => Text.quoted s
  | .bytes bs => Text.quotedBytes bs
  | .list items => "[" ++ String.intercalate ", " (literals items shown) ++ "]"
  | .tuple items =>
    match literals items shown with
    | [single] => "(" ++ single ++ ",)"
    | several => "(" ++ String.intercalate ", " several ++ ")"
  | .set items =>
    match literals items shown with
    | [] => "set()"
    | several => "\x7b" ++ String.intercalate ", " several ++ "\x7d"
  | .mapping entries => "\x7b" ++ String.intercalate ", " (entryLiterals entries shown) ++ "\x7d"
  | .date d => dateLiteral d
  | .moment t => momentLiteral t
  | .knot cells root =>
    let forms := cellForms cells
    cellForm forms (forms.length + 1) [] root
  | .again n => shown n

/-- The forms of several values. -/
def literals (vs : List Value) (shown : Nat → String) : List String :=
  match vs with
  | [] => []
  | v :: vs => literalWith v shown :: literals vs shown

/-- The forms of several entries, key and value with a colon between them. -/
def entryLiterals (entries : List (Value × Value)) (shown : Nat → String) : List String :=
  match entries with
  | [] => []
  | (k, v) :: rest =>
    (literalWith k shown ++ ": " ++ literalWith v shown) :: entryLiterals rest shown

/-- How cells are written, beside what stands for them inside themselves. -/
def cellForms : List (Nat × Value) → List (Nat × String × ((Nat → String) → String))
  | [] => []
  | (n, v) :: rest => (n, dots v, literalWith v) :: cellForms rest

end

/-- The unambiguous form of a value. -/
def literal (v : Value) : String := literalWith v fun _ => ""

/-- The form of a value for a reader. -/
def display : Value → String
  | .text s => s
  | .date d => d.iso
  | .moment t => t.iso " "
  | v => v.literal

end CompilerRunner.Value
