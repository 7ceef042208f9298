/-!
# Decimal — Reading

Numbers read from text.  `readWhole?` reads digits of a base, `readInteger?` adds a sign and the
mark of the base, `readReal?` reads a decimal with point and exponent, or one of the words for
infinity and not-a-number, rounded to the nearest double.
-/

namespace CompilerRunner.Decimal

/-- The value of a digit, also beyond nine. -/
def digitValue? (c : Char) : Option Nat :=
  if '0' ≤ c ∧ c ≤ '9' then some (c.toNat - '0'.toNat)
  else if 'a' ≤ c ∧ c ≤ 'z' then some (c.toNat - 'a'.toNat + 10)
  else if 'A' ≤ c ∧ c ≤ 'Z' then some (c.toNat - 'A'.toNat + 10)
  else none

/-- Digits of a base, at least one, and nothing else. -/
def readWhole? (base : Nat) (cs : List Char) : Option Nat :=
  match cs with
  | [] => none
  | _ => cs.foldlM (fun acc c => do
      let d ← digitValue? c
      if d < base then some (acc * base + d) else none) 0

/-- The sign in front, if there is one: true for a minus. -/
def splitSign : List Char → Bool × List Char
  | '-' :: rest => (true, rest)
  | '+' :: rest => (false, rest)
  | cs => (false, cs)

/-- The text without the mark that announces the base. -/
def dropBaseMark (base : Nat) : List Char → List Char
  | '0' :: m :: rest =>
    if (base = 2 && m.toLower = 'b') || (base = 8 && m.toLower = 'o')
        || (base = 16 && m.toLower = 'x') then rest
    else '0' :: m :: rest
  | cs => cs

/-- No number of more decimal digits is read. -/
def decimalDigitLimit : Nat := 4300

/-- A sign, the mark of the base, and digits; a sign may be missing, and so may the mark. -/
def readInteger? (base : Nat) (cs : List Char) : Option Int :=
  let (negative, rest) := splitSign cs
  let digits := dropBaseMark base rest
  if base = 10 ∧ decimalDigitLimit < digits.length then none
  else
    (readWhole? base digits).map fun n => if negative then -(n : Int) else n

/-- The exponent after the mark of a decimal, or zero if there is none. -/
def exponent? : List Char → Option Int
  | [] => some 0
  | m :: rest =>
    if m.toLower = 'e' then
      let (negative, ds) := splitSign rest
      (readWhole? 10 ds).map fun n => if negative then -(n : Int) else n
    else none

/-- The double nearest to `± digits · 10 ^ exponent`, where `digits` has `digitCount` digits, the
first of which is not zero.  An exponent so large or small that the number is infinite or zero
whatever its digits is not computed with. -/
def nearest (negative : Bool) (digits : Nat) (digitCount : Nat) (exponent : Int) : Float :=
  let magnitude : Float :=
    if digits = 0 then 0
    else if 400 < exponent + digitCount then 1 / 0
    else if exponent + digitCount < -400 then 0
    else if exponent < 0 then Float.ofScientific digits true (-exponent).toNat
    else Float.ofScientific digits false exponent.toNat
  if negative then -magnitude else magnitude

/-- A decimal without sign: digits, a point, digits, an exponent; one digit at least. -/
def unsigned? (negative : Bool) (cs : List Char) : Option Float := do
  let whole := cs.takeWhile Char.isDigit
  let afterWhole := cs.dropWhile Char.isDigit
  let (fraction, rest) :=
    match afterWhole with
    | '.' :: r => (r.takeWhile Char.isDigit, r.dropWhile Char.isDigit)
    | r => ([], r)
  let ds := whole ++ fraction
  let n ← readWhole? 10 ds
  let e ← exponent? rest
  return nearest negative n (ds.dropWhile (· = '0')).length (e - fraction.length)

/-- A number in decimal notation, or `inf`, `infinity` or `nan` in any case. -/
def readReal? (cs : List Char) : Option Float :=
  let (negative, rest) := splitSign cs
  let word := String.ofList (rest.map Char.toLower)
  if word = "inf" ∨ word = "infinity" then some (if negative then -(1 / 0) else 1 / 0)
  else if word = "nan" then some (0 / 0)
  else unsigned? negative rest

/-- The text without its underscores; none if one stands at an end or beside another one. -/
def withoutUnderscores? (cs : List Char) : Option (List Char) :=
  let doubled := (cs.zip (cs.drop 1)).any fun p => p.1 = '_' && p.2 = '_'
  if cs.head? = some '_' || cs.getLast? = some '_' || doubled then none
  else some (cs.filter (· ≠ '_'))

/-- The text without the zeros in front of its first other digit, and the single underscores among
them; of a text of zeros, or of zeros before a point, the last is left.  The text must start with a
digit, or, like what follows the zeros, with a minus. -/
def withoutLeadingZeros? (cs : List Char) : Option (List Char) :=
  match cs with
  | '0' :: rest => strip '0' rest
  | c :: _ => if c.isDigit || c = '-' then some cs else none
  | [] => none
where
  /-- What is left after the characters up to `last` are taken off. -/
  strip (last : Char) : List Char → Option (List Char)
    | [] => some [last]
    | '0' :: rest => strip '0' rest
    | '_' :: rest => if last = '_' then none else strip '_' rest
    | '.' :: rest => some (last :: '.' :: rest)
    | c :: rest => if c.isDigit || c = '-' then some (c :: rest) else none

/-- The text without its point and the zeros after it, if nothing else follows the point. -/
def withoutEmptyFraction (cs : List Char) : List Char :=
  match cs.dropWhile (· ≠ '.') with
  | '.' :: zeros => if zeros.all (· = '0') then cs.takeWhile (· ≠ '.') else cs
  | _ => cs

end CompilerRunner.Decimal
