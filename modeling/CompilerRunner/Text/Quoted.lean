import CompilerRunner.Text.CodePoint
import CompilerRunner.Text.Unprintable

/-!
# Text — Quoted

The quoted form in which names and values appear in messages.  The quotes are single, or double when
the text holds a single quote and no double one (`quoteFor`); the quote itself and the backslash are
escaped, line feed, carriage return and tab have short escapes, and what has no printed shape is
written by its number in two, four or eight hexadecimal digits.
-/

namespace CompilerRunner.Text

/-- A hexadecimal digit, in lower case. -/
def hexDigit (n : Nat) : Char :=
  if n < 10 then Char.ofNat (0x30 + n) else Char.ofNat (0x57 + n)

/-- The last `width` hexadecimal digits of `n`. -/
def hexDigits : (width n : Nat) → List Char
  | 0, _ => []
  | w + 1, n => hexDigits w (n / 16) ++ [hexDigit (n % 16)]

/-- A character's number as an escape of the shortest of the three forms that holds it. -/
def numericEscape (n : Nat) : List Char :=
  if n < 0x100 then '\\' :: 'x' :: hexDigits 2 n
  else if n < 0x10000 then '\\' :: 'u' :: hexDigits 4 n
  else '\\' :: 'U' :: hexDigits 8 n

/-- The quote that a text is written with. -/
def quoteFor (cs : List Char) : Char :=
  if cs.contains '\'' && !cs.contains '"' then '"' else '\''

/-- One code point between the quotes `q`. -/
def escapeCode (q : Char) (n : Nat) : List Char :=
  let c := Char.ofNat n
  if isSurrogate n then numericEscape n
  else if c = q || c = '\\' then ['\\', c]
  else if c = '\n' then ['\\', 'n']
  else if c = '\r' then ['\\', 'r']
  else if c = '\t' then ['\\', 't']
  else if isPrintable c then [c]
  else numericEscape n

/-- A text in quotes. -/
def quoted (s : String) : String :=
  let q := quoteFor s.toList
  String.ofList (q :: (codes s).flatMap (escapeCode q) ++ [q])

/-- One byte between the quotes `q`: a byte outside printable ASCII is written by its number. -/
def escapeByte (q : Char) (b : UInt8) : List Char :=
  let c := Char.ofNat b.toNat
  if c = q || c = '\\' then ['\\', c]
  else if c = '\n' then ['\\', 'n']
  else if c = '\r' then ['\\', 'r']
  else if c = '\t' then ['\\', 't']
  else if 0x20 ≤ b && b < 0x7F then [c]
  else '\\' :: 'x' :: hexDigits 2 b.toNat

/-- Bytes in quotes, marked by a leading `b`. -/
def quotedBytes (bs : List UInt8) : String :=
  let q := quoteFor (bs.map fun b => Char.ofNat b.toNat)
  String.ofList ('b' :: q :: bs.flatMap (escapeByte q) ++ [q])

example : quoted "it's" = "\"it's\"" := by decide +kernel
example : quoted "a\nb" = "'a\\nb'" := by decide +kernel
example : quotedBytes [0x61, 0x27, 0xFF, 0x0A] = "b\"a'\\xff\\n\"" := by decide +kernel

end CompilerRunner.Text
