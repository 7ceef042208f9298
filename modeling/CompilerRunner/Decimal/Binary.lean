/-!
# Decimal — Binary

A double taken apart.  A finite double is `± significand · 2 ^ exponent` (`Parts`), read off its
sixty-four bits; `integer?` is exact.
-/

namespace CompilerRunner.Decimal

/-- What the bits of a double say. -/
inductive Parts where
  | finite (negative : Bool) (significand : Nat) (exponent : Int)
  | infinite (negative : Bool)
  | notANumber

/-- The smallest exponent, that of the numbers next to zero. -/
def leastExponent : Int := -1074

/-- The bit above those of a fraction, `2 ^ 52`, which a normal number has without showing it. -/
def hiddenBit : Nat := 0x10000000000000

/-- The parts of a double: from the highest bit down one for the sign, eleven for the exponent and
fifty-two for the fraction. -/
def parts (x : Float) : Parts :=
  let bits := x.toBits.toNat
  let negative := bits / 0x8000000000000000 == 1
  let field := bits / hiddenBit % 0x800
  let fraction := bits % hiddenBit
  if field = 2047 then
    if fraction = 0 then .infinite negative else .notANumber
  else if field = 0 then .finite negative fraction leastExponent
  else .finite negative (hiddenBit + fraction) (leastExponent + (field - 1 : Nat))

/-- The whole number that the double is, if it is one. -/
def integer? (x : Float) : Option Int :=
  match parts x with
  | .finite negative m e =>
    let signed (n : Nat) : Int := if negative then -(n : Int) else n
    if 0 ≤ e then some (signed (m * Nat.pow 2 e.toNat))
    else
      let unit := Nat.pow 2 (-e).toNat
      if m % unit = 0 then some (signed (m / unit)) else none
  | .infinite _ | .notANumber => none

/-- The double nearest to a whole number; none if that is beyond the finite ones. -/
def ofInteger? (n : Int) : Option Float :=
  let x := Float.ofInt n
  if x.isFinite then some x else none

end CompilerRunner.Decimal
