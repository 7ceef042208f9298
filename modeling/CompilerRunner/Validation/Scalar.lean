import CompilerRunner.Decimal.Reading
import CompilerRunner.Path
import CompilerRunner.Text.Blank
import CompilerRunner.Text.Utf8
import CompilerRunner.Validation.Checked
import CompilerRunner.Value

/-!
# Validation — Scalar

Checks that turn a single value into a text, a flag, a choice, a number or a path.  Each accepts a
few spellings of the same thing: bytes for a text, `yes` or `1` for a flag, numeric text for a
number.  A value that is refused has exactly one fault.
-/

namespace CompilerRunner.Validation

/-- A text, also given as its UTF-8 bytes. -/
def text : Value → Checked String
  | .text s => .valid s
  | .bytes bs =>
    match Text.Utf8.decode? bs with
    | some s => .valid s
    | none => .fault .undecodableText
  | _ => .fault .notText

/-- The words for a flag that is set, and for one that is not. -/
def flagWords : List String × List String :=
  (["1", "on", "t", "true", "y", "yes"], ["0", "off", "f", "false", "n", "no"])

/-- A flag spelled as a word, in any case. -/
def flagOfWord (s : String) : Checked Bool :=
  let word := String.ofList (s.toList.map Char.toLower)
  if flagWords.1.contains word then .valid true
  else if flagWords.2.contains word then .valid false
  else .fault .unreadableFlag

/-- A number that sixty-four bits hold. -/
def isWord (n : Int) : Bool := -9223372036854775808 ≤ n && n < 9223372036854775808

/-- The truth value that a whole number stands for: 1 and 0 have one, the other numbers of 64 bits
are flags that cannot be read, and what lies beyond is no flag at all. -/
def flagOfInteger (n : Int) : Checked Bool :=
  if n = 1 then .valid true
  else if n = 0 then .valid false
  else if isWord n then .fault .unreadableFlag
  else .fault .notFlag

/-- A whole number given as a float.  The least number of 64 bits is not among them. -/
def integerOfFloat (x : Float) : Checked Int :=
  if x.isFinite then
    match Decimal.integer? x with
    | some n =>
      if isWord n ∧ n ≠ -9223372036854775808 then .valid n else .fault .oversizedInteger
    | none => .fault .fractionalInteger
  else .fault .infiniteInteger

/-- The text, if it consists of characters alone. -/
def characters (s : String) : Checked String :=
  if Text.hasSurrogate s then .fault .undecodableText else .valid s

/-- A text that consists of characters alone, read by `read`. -/
def reading {α : Type} (read : String → Checked α) (s : String) : Checked α :=
  match characters s with
  | .valid s => read s
  | .invalid ds => .invalid ds

/-- A flag: a truth value, one of the words for it, or the number 1 or 0. -/
def flag : Value → Checked Bool
  | .bool b => .valid b
  | .text s => reading flagOfWord s
  | .bytes bs =>
    match Text.Utf8.decode? bs with
    | some s => flagOfWord s
    | none => .fault .unreadableFlag
  | .integer n => flagOfInteger n
  | .float x =>
    match integerOfFloat x with
    | .valid n => flagOfInteger n
    | .invalid _ => .fault .notFlag
  | _ => .fault .notFlag

/-- One of several choices, spelled exactly. -/
def choice {α : Type} (choices : List (String × α)) : Value → Checked α
  | .text s =>
    reading (fun s =>
      match choices.lookup s with
      | some a => .valid a
      | none => .fault (.notOneOf (choices.map Prod.fst))) s
  | _ => .fault (.notOneOf (choices.map Prod.fst))

/-- A number in a text: decimal, with white space around it, or else with single underscores in
it. -/
def numberOfText (s : String) : Checked Float :=
  match Decimal.readReal? (Text.trimBoth Text.isSpace s.toList) with
  | some x => .valid x
  | none =>
    match (Decimal.withoutUnderscores? s.toList).bind Decimal.readReal? with
    | some x => .valid x
    | none => .fault .unreadableNumber

/-- A number, rounded to a double. -/
def number : Value → Checked Float
  | .float x => .valid x
  | .bool b => .valid (if b then 1 else 0)
  | .integer n =>
    match Decimal.ofInteger? n with
    | some x => .valid x
    | none => .fault .notNumber
  | .text s => reading numberOfText s
  | .bytes bs =>
    match Text.Utf8.decode? bs with
    | some s => numberOfText s
    | none => .fault .unreadableNumber
  | _ => .fault .notNumber

/-- A number greater than zero. -/
def positiveNumber (v : Value) : Checked Float :=
  match number v with
  | .valid x => if 0 < x then .valid x else .fault (.notGreaterThan 0)
  | .invalid ds => .invalid ds

theorem positiveNumber_eq_valid_iff {v : Value} {x : Float} :
    positiveNumber v = .valid x ↔ number v = .valid x ∧ 0 < x := by
  unfold positiveNumber
  cases hv : number v with
  | invalid ds => simp
  | valid y =>
      by_cases hy : 0 < y
      · simp only [if_pos hy, Checked.valid.injEq]
        exact ⟨fun h => ⟨h, h ▸ hy⟩, And.left⟩
      · simp only [if_neg hy, Checked.fault, Checked.valid.injEq, reduceCtorEq, false_iff]
        rintro ⟨rfl, h⟩
        exact hy h

/-- A whole number in plain digits: no sign but a minus, and no zero in front of another digit. -/
def integerOfDigits (negative : Bool) (cs : List Char) : Checked Int :=
  let (negative, digits) :=
    match negative, cs with
    | false, '-' :: digits => (true, digits)
    | negative, digits => (negative, digits)
  let plain := !digits.isEmpty && digits.all Char.isDigit && (digits.head? ≠ some '0' || digits = ['0'])
  if !plain then .fault .unreadableInteger
  else if Decimal.decimalDigitLimit < digits.length then .fault .oversizedInteger
  else
    let n : Int := (Decimal.readWhole? 10 digits).getD 0
    .valid (if negative then -n else n)

/-- A text starts with more digits than any number has. -/
def startsOversized (cs : List Char) : Bool :=
  let digits := (if cs.head? = some '-' then cs.drop 1 else cs).takeWhile Char.isDigit
  digits.head? ≠ some '0' && Decimal.decimalDigitLimit < digits.length

/-- A whole number in a text: digits after a sign, white space around them, zeros in front of them
and single underscores in them left aside; a fraction of zeros is ignored. -/
def integerOfText (s : String) : Checked Int :=
  let cs := Text.trimBoth Text.isSpace s.toList
  let (negative, body) := Decimal.splitSign cs
  if startsOversized s.toList then .fault .oversizedInteger
  else if cs.head? = some '+' ∧ body.head? = some '-' then .fault .unreadableInteger
  else
    match Decimal.withoutLeadingZeros? body with
    | some digits =>
      let whole := Decimal.withoutEmptyFraction digits
      integerOfDigits negative ((Decimal.withoutUnderscores? whole).getD whole)
    | none => .fault .unreadableInteger

/-- A whole number. -/
def integer : Value → Checked Int
  | .integer n => .valid n
  | .bool b => .valid (if b then 1 else 0)
  | .float x => integerOfFloat x
  | .text s => reading integerOfText s
  | .bytes bs =>
    match Text.Utf8.decode? bs with
    | some s => integerOfText s
    | none => .fault .unreadableInteger
  | _ => .fault .notInteger

/-- A path, given as a text. -/
def path : Value → Checked Path
  | .text s => .valid (Path.ofText s)
  | _ => .fault .notPath

/-- What the check accepts, or nothing at all. -/
def optional {α : Type} (check : Value → Checked α) : Value → Checked (Option α)
  | .null => .valid none
  | v => (check v).map some

end CompilerRunner.Validation
