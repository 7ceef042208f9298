import CompilerRunner.Decimal.Reading
import CompilerRunner.Value

/-!
# Value — Digits

Whole numbers of very many digits.  They can be read in a base other than ten, and they are never
written out: a value that holds one has no form in messages.
-/

namespace CompilerRunner.Value

mutual

/-- Some number in the value has more digits than are written out. -/
def isOversized : Value → Bool
  | .integer n => Nat.pow 10 Decimal.decimalDigitLimit ≤ n.natAbs
  | .list items | .tuple items | .set items => anyOversized items
  | .mapping entries => anyEntryOversized entries
  | .knot cells _ => anyCellOversized cells
  | _ => false

/-- Some of the values holds such a number. -/
def anyOversized : List Value → Bool
  | [] => false
  | v :: vs => isOversized v || anyOversized vs

/-- Some of the entries holds such a number, in its key or its value. -/
def anyEntryOversized : List (Value × Value) → Bool
  | [] => false
  | (k, v) :: rest => isOversized k || isOversized v || anyEntryOversized rest

/-- Some of the cells holds such a number. -/
def anyCellOversized : List (Nat × Value) → Bool
  | [] => false
  | (_, v) :: rest => isOversized v || anyCellOversized rest

end

end CompilerRunner.Value
