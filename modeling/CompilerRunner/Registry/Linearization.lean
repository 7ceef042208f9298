/-!
# Registry — Linearization

The order in which a class and the classes it is derived from are searched.  A class comes before
its bases, and bases keep their order, in every linearization that the result is merged from; where
that is impossible there is none (`merge`).
-/

namespace CompilerRunner.Registry

/-- The number of a class: its place among all classes that have been made. -/
abbrev ClassId := Nat

/-- The class can come next: it stands behind no other class. -/
def isFree (orders : List (List ClassId)) (c : ClassId) : Bool :=
  orders.all fun order => !(order.drop 1).contains c

/-- The first class that can come next. -/
def next? (orders : List (List ClassId)) : Option ClassId :=
  (orders.filterMap List.head?).find? (isFree orders)

/-- The orders without a class that stands at the front of some of them. -/
def dropFront (orders : List (List ClassId)) (c : ClassId) : List (List ClassId) :=
  orders.map fun order => if order.head? = some c then order.drop 1 else order

/-- One order that agrees with all of the orders, if there is one. -/
def merge : (fuel : Nat) → List (List ClassId) → Option (List ClassId)
  | 0, _ => none
  | fuel + 1, orders =>
    if orders.all List.isEmpty then some []
    else do
      let c ← next? orders
      return c :: (← merge fuel (dropFront orders c))

/-- The order of a class with these bases, whose own orders are known. -/
def linearize (own : ClassId) (bases : List ClassId) (orderOf : ClassId → List ClassId) :
    Option (List ClassId) :=
  let orders := bases.map orderOf ++ [bases]
  if bases.Nodup then (own :: ·) <$> merge (orders.flatten.length + 1) orders else none

example : linearize 3 [1, 2] (fun | 1 => [1, 0] | 2 => [2, 0] | c => [c]) = some [3, 1, 2, 0] := by
  decide
example : linearize 3 [0, 1] (fun | 1 => [1, 0] | c => [c]) = none := by decide

end CompilerRunner.Registry
