import CompilerRunner.Yaml.Timestamp

/-!
# Yaml — Tag

What kind of value a node stands for.  A plain scalar without a tag gets one from its text
(`Tag.ofPlain`): by the rules of version 1.1, where `yes` is a truth value, `0x1f` and `1:30` are
numbers, and `1e3` is a text.
-/

namespace CompilerRunner.Yaml

/-- The kinds of values. -/
inductive Tag where
  | null
  | bool
  | integer
  | float
  | binary
  | timestamp
  | omap
  | pairs
  | set
  | text
  | sequence
  | mapping
  | merge
  | value
  | other (uri : String)
deriving DecidableEq

namespace Tag

/-- What the tags of the standard have in common. -/
def standard : String := "tag:yaml.org,2002:"

/-- The tags of the standard. -/
def names : List (String × Tag) :=
  [("null", .null), ("bool", .bool), ("int", .integer), ("float", .float), ("binary", .binary),
    ("timestamp", .timestamp), ("omap", .omap), ("pairs", .pairs), ("set", .set), ("str", .text),
    ("seq", .sequence), ("map", .mapping), ("merge", .merge), ("value", .value)]

/-- The tag with that full name. -/
def ofUri (uri : String) : Tag :=
  match names.find? fun e => standard ++ e.1 = uri with
  | some e => e.2
  | none => .other uri

/-- A digit or an underscore. -/
def isDigitChar (c : Char) : Bool := c.isDigit || c = '_'

/-- The text without a sign in front. -/
def unsigned : List Char → List Char
  | '+' :: rest | '-' :: rest => rest
  | cs => cs

/-- What follows the parts of a number to the base sixty: one or two digits after each colon.  None
if there is no such part. -/
def afterSixties : List Char → Option (List Char)
  | ':' :: a :: b :: rest =>
    if '0' ≤ a ∧ a ≤ '5' ∧ b.isDigit then
      match rest with
      | ':' :: _ => afterSixties rest
      | rest => some rest
    else if a.isDigit then
      match b with
      | ':' => afterSixties (b :: rest)
      | _ => some (b :: rest)
    else none
  | [':', a] => if a.isDigit then some [] else none
  | _ => none

/-- The form of a whole number. -/
def isInteger (cs : List Char) : Bool :=
  match unsigned cs with
  | ['0'] => true
  | '0' :: 'b' :: rest => !rest.isEmpty && rest.all fun c => c = '0' || c = '1' || c = '_'
  | '0' :: 'x' :: rest =>
    !rest.isEmpty && rest.all fun c =>
      isDigitChar c || ('a' ≤ c && c ≤ 'f') || ('A' ≤ c && c ≤ 'F')
  | '0' :: rest => rest.all fun c => ('0' ≤ c && c ≤ '7') || c = '_'
  | c :: rest =>
    c.isDigit &&
      match rest.dropWhile isDigitChar with
      | [] => true
      | tail => afterSixties tail == some []
  | [] => false

/-- An exponent, or nothing. -/
def isExponent : List Char → Bool
  | [] => true
  | e :: s :: ds =>
    (e = 'e' || e = 'E') && (s = '+' || s = '-') && !ds.isEmpty && ds.all Char.isDigit
  | [_] => false

/-- The form of a number with a point. -/
def isFloat (cs : List Char) : Bool :=
  let body := unsigned cs
  let word := String.ofList body
  match body with
  | '.' :: d :: rest =>
    (body.length = cs.length && d.isDigit && isExponent (rest.dropWhile isDigitChar))
      || word = ".inf" || word = ".Inf" || word = ".INF"
      || (body.length = cs.length && (word = ".nan" || word = ".NaN" || word = ".NAN"))
  | d :: rest =>
    d.isDigit &&
      match rest.dropWhile isDigitChar with
      | '.' :: tail => isExponent (tail.dropWhile isDigitChar)
      | tail =>
        match afterSixties tail with
        | some ('.' :: fraction) => fraction.all isDigitChar
        | _ => false
  | [] => false

/-- The words for truth values. -/
def boolWords : List String :=
  ["yes", "Yes", "YES", "no", "No", "NO", "true", "True", "TRUE", "false", "False", "FALSE", "on",
    "On", "ON", "off", "Off", "OFF"]

/-- The words for nothing. -/
def nullWords : List String := ["~", "null", "Null", "NULL"]

/-- The tag that a text has by itself; one line break at its end is left aside. -/
def ofPlain (s : String) : Tag :=
  let cs := s.toList
  let core := if cs.getLast? = some '\n' then cs.dropLast else cs
  let word := String.ofList core
  if s = "" ∨ nullWords.contains word then .null
  else if boolWords.contains word then .bool
  else if isFloat core then .float
  else if isInteger core then .integer
  else if word = "<<" then .merge
  else if Timestamp.isObvious core then .timestamp
  else if word = "=" then .value
  else if ["!", "&", "*"].contains word then .other (standard ++ "yaml")
  else .text

example : ofPlain "1:30" = .integer := by decide +kernel
example : ofPlain "1e3" = .text := by decide +kernel

end Tag

end CompilerRunner.Yaml
