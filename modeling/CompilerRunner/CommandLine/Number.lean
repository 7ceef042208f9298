import CompilerRunner.Decimal.Reading
import CompilerRunner.Text.Digit
import CompilerRunner.Text.Split

/-!
# CommandLine — Number

Words that are numbers although they start with a hyphen.  A number is a whole one in the notation
of some base, a decimal, an imaginary number, the sum of both, or a range with colons between whole
numbers.  Underscores may separate digits.
-/

namespace CompilerRunner.CommandLine

/-- An underscore stands between two digits. -/
def underscoresSeparate : List Char → Bool
  | [] => true
  | ['_'] => false
  | c :: '_' :: d :: rest => c.isDigit && d.isDigit && underscoresSeparate (d :: rest)
  | _ :: rest => underscoresSeparate rest

/-- A decimal with or without sign. -/
def isReal (cs : List Char) : Bool :=
  cs.head? ≠ some '_' && underscoresSeparate cs &&
    (Decimal.readReal? (cs.filter (· ≠ '_'))).isSome

/-- A number, or only a sign. -/
def isFactor (cs : List Char) : Bool := cs = ['+'] || cs = ['-'] || isReal cs

/-- A real number followed by a signed imaginary part. -/
def isSum (cs : List Char) : Bool :=
  (List.range cs.length).any fun n =>
    let (real, factor) := (cs.take n, cs.drop n)
    (factor.head? = some '+' || factor.head? = some '-') && isReal real && isFactor factor

/-- A decimal, an imaginary number, or the sum of both. -/
def isComplex (cs : List Char) : Bool :=
  match cs.getLast? with
  | some c =>
    if c = 'j' ∨ c = 'J' then isFactor cs.dropLast || isSum cs.dropLast else isReal cs
  | none => false

/-- The base that a mark after a zero announces. -/
def markedBase? (mark : Char) : Option Nat :=
  [('x', 16), ('o', 8), ('b', 2)].lookup mark.toLower

/-- Digits of a base, of which single underscores may stand before each. -/
def isDigits (base : Nat) : List Char → Bool
  | '_' :: c :: rest => isDigit c && (rest.isEmpty || isDigits base rest)
  | c :: rest => isDigit c && (rest.isEmpty || isDigits base rest)
  | [] => false
where
  /-- The character is a digit of the base. -/
  isDigit (c : Char) : Bool := (Decimal.digitValue? c).any fun d => decide (d < base)

/-- A whole number, to the base ten or to the one that its mark announces. -/
def isWhole (cs : List Char) : Bool :=
  let (_, digits) := Decimal.splitSign cs
  match digits with
  | '0' :: mark :: rest =>
    match markedBase? mark with
    | some base => isDigits base rest
    | none => isDigits 10 digits
  | '_' :: _ => false
  | digits => isDigits 10 digits

/-- Two or three bounds with colons between them, each of which is a whole number or left out. -/
def isRange (cs : List Char) : Bool :=
  let bounds := Text.splitAt ':' cs
  (bounds.length = 2 || bounds.length = 3) && bounds.all fun b => b.isEmpty || isWhole b

/-- The word is a number or a range.  An imaginary unit with nothing but a hyphen before it is taken
for an option. -/
def isNumber (word : String) : Bool :=
  let cs := Text.plainNumber word.toList
  word ≠ "-j" && word ≠ "-J" && (isComplex cs || isWhole cs || isRange cs)

example : isNumber "-1e5j" ∧ isNumber "-0x_f" ∧ isNumber "-10:" := by decide +kernel
example : ¬ isNumber "-j" ∧ ¬ isNumber "-0b102" ∧ ¬ isNumber "-1:x" := by decide +kernel

end CompilerRunner.CommandLine
