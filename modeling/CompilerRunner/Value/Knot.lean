import CompilerRunner.Value

/-!
# Value — Knot

Collections that contain themselves.  They arise from cells that refer to one another: a cell is a
collection whose parts are values or, as `again n`, the collection in cell `n`.  `ofCells` makes the
value of a cell: as far as cells lead to no circle they are put into one another, and only the rest
becomes a knot.  `opened` shows a knot as an ordinary collection, whose parts may be knots again.
-/

namespace CompilerRunner

namespace Value

/-- What stands for a cell, replaced by what `f` gives for the cell. -/
def fill (f : Nat → Option Value) : Value → Value
  | .again n => (f n).getD (.again n)
  | v => v

/-- An item of a list with the cells in it replaced; a pair is filled on both sides. -/
def fillItem (f : Nat → Option Value) : Value → Value
  | .tuple items => .tuple (items.map (fill f))
  | v => v.fill f

/-- A cell with the cells in it replaced. -/
def fillCell (f : Nat → Option Value) : Value → Value
  | .list items => .list (items.map (fillItem f))
  | .mapping es => .mapping (es.map fun e => (e.1, e.2.fill f))
  | v => v

/-- The collection that a knot is, as an ordinary one; any other value is itself. -/
def opened : Value → Value
  | .knot cells root =>
    match cells.lookup root with
    | some v => v.fillCell fun n => some (.knot cells n)
    | none => .null
  | v => v

/-- The cell that a value stands for. -/
def cell? : Value → Option Nat
  | .again n => some n
  | _ => none

/-- The cells that a cell refers to. -/
def references : Value → List Nat
  | .list items =>
    items.flatMap fun
      | .tuple parts => parts.filterMap cell?
      | v => v.cell?.toList
  | .mapping es => es.filterMap fun e => e.2.cell?
  | _ => []

/-- The values of cells, as far as they are known. -/
abbrev Known := Array (Option Value)

/-- The value of a cell, if it is known. -/
def Known.get? (known : Known) (n : Nat) : Option Value := (known[n]?).getD none

/-- The cells of which nothing unknown is part become known, one after the other; the others are
left. -/
def settleOnce (known : Known) : List (Nat × Value) → Known × List (Nat × Value)
  | [] => (known, [])
  | (n, v) :: rest =>
    if v.references.all fun m => (known.get? m).isSome then
      settleOnce (known.setIfInBounds n (some (v.fillCell known.get?))) rest
    else
      let (known, left) := settleOnce known rest
      (known, (n, v) :: left)

/-- Cells become known until none is left, or only such as lead to a circle. -/
def settle (known : Known) (cells : List (Nat × Value)) : (fuel : Nat) → Known × List (Nat × Value)
  | 0 => (known, cells)
  | fuel + 1 =>
    let (known, left) := settleOnce known cells
    if left.length = cells.length then (known, left) else settle known left fuel

/-- The value of the cell `root`; the numbers of the cells are less than `bound`. -/
def ofCells (bound : Nat) (cells : List (Nat × Value)) (root : Nat) : Value :=
  let (known, left) := settle (Array.replicate bound none) cells (cells.length + 1)
  match known.get? root with
  | some v => v
  | none => .knot (left.map fun c => (c.1, c.2.fillCell known.get?)) root

mutual

/-- A part of the value contains itself. -/
def isEndless : Value → Bool
  | .knot _ _ => true
  | .list items | .tuple items | .set items => anyEndless items
  | .mapping es => anyEntryEndless es
  | _ => false

/-- A part of one of the values contains itself. -/
def anyEndless : List Value → Bool
  | [] => false
  | v :: vs => isEndless v || anyEndless vs

/-- A part of the value of one of the entries contains itself. -/
def anyEntryEndless : List (Value × Value) → Bool
  | [] => false
  | (_, v) :: rest => isEndless v || anyEntryEndless rest

end

example : (ofCells 2 [(0, .list [.again 1, .null]), (1, .list [.bool true])] 0) =
    .list [.list [.bool true], .null] := rfl

end Value

end CompilerRunner
