import CompilerRunner.Decimal.Binary

/-!
# Decimal — Shortest

The fewest decimal digits that read back as the same double.  The reals that round to a double form
an interval (`Rounding`), whose ends belong to it when the significand is even.  For one digit, two,
and so on to seventeen, the two neighbours of the value on the grid of that many digits are tested;
the first grid with a hit wins, and of two hits the nearer one, or the even one of a tie
(`Rounding.shortest`).  `Layout` says how digits are set out as text.
-/

namespace CompilerRunner.Decimal

/-- The value `value / scale` and the ends of the interval that rounds to it. -/
structure Rounding where
  value : Nat
  low : Nat
  high : Nat
  scale : Nat
  closed : Bool

/-- The interval of `significand · 2 ^ exponent`.  Below a power of two the next double is only half
as far away. -/
def Rounding.of (significand : Nat) (exponent : Int) : Rounding :=
  let up := Nat.pow 2 (exponent - 2).toNat
  let narrow := significand == hiddenBit && leastExponent < exponent
  { value := 4 * significand * up
    low := (4 * significand - if narrow then 1 else 2) * up
    high := (4 * significand + 2) * up
    scale := Nat.pow 2 (2 - exponent).toNat
    closed := significand % 2 == 0 }

/-- The number of decimal digits of `n`, at least one. -/
def digitCount (n : Nat) : Nat := (Nat.toDigits 10 n).length

/-- The least `k` with `1 ≤ value · 10 ^ k / scale`, at most `fuel`. -/
def leadingZeros (value scale : Nat) : (fuel : Nat) → Nat
  | 0 => 0
  | fuel + 1 => if scale ≤ value then 0 else leadingZeros (value * 10) scale fuel + 1

/-- The decimal exponent of the first digit of the value. -/
def Rounding.magnitude (r : Rounding) : Int :=
  if r.scale ≤ r.value then (digitCount (r.value / r.scale) : Int) - 1
  else -(leadingZeros r.value r.scale 400 : Int)

/-- Digits and the exponent of the last one: the number `digits · 10 ^ exponent`. -/
structure Digits where
  digits : Nat
  exponent : Int

/-- The neighbours of the value among the multiples of `10 ^ unit`, the one that rounds to it. -/
def Rounding.onGrid? (r : Rounding) (unit : Int) : Option Digits :=
  let up := Nat.pow 10 (-unit).toNat
  let grid := r.scale * Nat.pow 10 unit.toNat
  let below := r.value * up / grid
  let within (c : Nat) : Bool :=
    if r.closed then r.low * up ≤ c * grid && c * grid ≤ r.high * up
    else r.low * up < c * grid && c * grid < r.high * up
  let gapBelow := r.value * up - below * grid
  let gapAbove := (below + 1) * grid - r.value * up
  match within below, within (below + 1) with
  | true, true =>
    if gapBelow < gapAbove || (gapBelow == gapAbove && below % 2 == 0) then some ⟨below, unit⟩
    else some ⟨below + 1, unit⟩
  | true, false => some ⟨below, unit⟩
  | false, true => some ⟨below + 1, unit⟩
  | false, false => none

/-- The first hit among the grids of `count`, `count + 1`, … digits; seventeen always suffice. -/
def Rounding.search (r : Rounding) (count : Nat) : (fuel : Nat) → Digits
  | 0 => ⟨r.value / r.scale, 0⟩
  | fuel + 1 =>
    match r.onGrid? (r.magnitude + 1 - count) with
    | some d => d
    | none => r.search (count + 1) fuel

/-- The fewest digits that read back. -/
def Rounding.shortest (r : Rounding) : Digits := r.search 1 17

/-- The digits without trailing zeros. -/
def Digits.strip (d : Digits) : (fuel : Nat) → Digits
  | 0 => d
  | fuel + 1 =>
    if d.digits ≠ 0 ∧ d.digits % 10 = 0 then
      Digits.strip ⟨d.digits / 10, d.exponent + 1⟩ fuel
    else d

/-- How a double is set out: from `positionalFrom` up to but without `positionalBelow` the decimal
exponent is shown by position, else after `mark` with at least `exponentWidth` digits. -/
structure Layout where
  positionalFrom : Int
  positionalBelow : Int
  mark : Char
  exponentWidth : Nat
  infinite : List Char
  notANumber : List Char

/-- The layout of every number in messages and listings. -/
def Layout.plain : Layout :=
  { positionalFrom := -4
    positionalBelow := 16
    mark := 'e'
    exponentWidth := 2
    infinite := ['i', 'n', 'f']
    notANumber := ['n', 'a', 'n'] }

/-- The exponent after the mark, signed. -/
def Layout.exponentText (l : Layout) (e : Int) : List Char :=
  let ds := Nat.toDigits 10 e.natAbs
  (if e < 0 then '-' else '+') :: List.replicate (l.exponentWidth - ds.length) '0' ++ ds

/-- The digits `ds`, the first of which has the decimal exponent `e`. -/
def Layout.set (l : Layout) (ds : List Char) (e : Int) : List Char :=
  if l.positionalFrom ≤ e ∧ e < l.positionalBelow then
    if e < 0 then '0' :: '.' :: List.replicate ((-e).toNat - 1) '0' ++ ds
    else
      let whole := e.toNat + 1
      let fraction := ds.drop whole
      ds.take whole ++ List.replicate (whole - ds.length) '0' ++
        '.' :: (if fraction.isEmpty then ['0'] else fraction)
  else
    let mantissa :=
      match ds with
      | first :: second :: rest => first :: '.' :: second :: rest
      | short => short
    mantissa ++ l.mark :: l.exponentText e

/-- The text of a double. -/
def Layout.text (l : Layout) (x : Float) : String :=
  let sign (negative : Bool) : List Char := if negative then ['-'] else []
  String.ofList <|
    match parts x with
    | .notANumber => l.notANumber
    | .infinite negative => sign negative ++ l.infinite
    | .finite negative 0 _ => sign negative ++ l.set ['0'] 0
    | .finite negative m e =>
      let d := (Rounding.of m e).shortest.strip 20
      let ds := Nat.toDigits 10 d.digits
      sign negative ++ l.set ds (d.exponent + (ds.length - 1 : Nat))

/-- The text of a double in the plain layout. -/
def floatText (x : Float) : String := Layout.plain.text x

end CompilerRunner.Decimal
