import CompilerRunner.Value.Knot
import CompilerRunner.Yaml.Merge
import CompilerRunner.Yaml.Scalar

/-!
# Yaml — Content

The value of a document.  A scalar gets its value where it is met.  A collection becomes a cell, and
what is inside it is looked at only after everything at the depth of the collection (`rounds`), so
that of several faults the one nearest to the root is reported, and of those the first.  Every node
is given its value once, however many aliases lead to it.
-/

namespace CompilerRunner.Yaml

namespace Graph

/-- The text of a scalar, or of the value of a mapping at its key `=`. -/
def scalarTextWithin (g : Graph) : (fuel : Nat) → NodeId → Except Fault String
  | 0, _ => Scalar.accident .endless
  | fuel + 1, id =>
    match g.node id with
    | .scalar _ text => .ok text
    | .sequence _ _ => .error .construction
    | .mapping _ entries =>
      match entries.find? fun e => (g.node e.1).tag = .value with
      | some e => scalarTextWithin g fuel e.2
      | none => .error .construction

/-- The text of a scalar; a mapping that leads to itself by its key `=` has none. -/
def scalarText (g : Graph) (id : NodeId) : Except Fault String := g.scalarTextWithin (g.size + 1) id

/-- The value of a node whose tag is one of those for scalars. -/
def scalarValue (g : Graph) (id : NodeId) : Except Fault Value :=
  match (g.node id).tag with
  | .null => (fun _ => .null) <$> g.scalarText id
  | .bool => Value.bool <$> (g.scalarText id >>= Scalar.bool)
  | .integer => Value.integer <$> (g.scalarText id >>= Scalar.integer)
  | .float => Value.float <$> (g.scalarText id >>= Scalar.float)
  | .binary => Value.bytes <$> (g.scalarText id >>= Scalar.binary)
  | .timestamp =>
    match g.node id with
    | .scalar _ text => Scalar.timestamp text
    | _ => g.scalarText id >>= fun _ => Scalar.accident .notText
  | .text => Value.text <$> g.scalarText id
  | _ => .error .construction

end Graph

/-- The tag is one of those for collections. -/
def Tag.isCollection : Tag → Bool
  | .sequence | .mapping | .set | .omap | .pairs => true
  | _ => false

/-- A key, with a number that tells apart such as are equal to nothing, not even to themselves. -/
structure Key where
  value : Value
  identity : Nat

namespace Key

/-- The key is not-a-number. -/
def isNotANumber : Value → Bool
  | .float x => x.isNaN
  | _ => false

/-- The two keys are one. -/
def same (k l : Key) : Bool :=
  k.value.sameKey l.value
    || (isNotANumber k.value && isNotANumber l.value && k.identity == l.identity)

/-- The entries with `v` at `k`: a key that is already there keeps its place and its form. -/
def insert (k : Key) (v : Value) : List (Key × Value) → List (Key × Value)
  | [] => [(k, v)]
  | (l, w) :: rest => if l.same k then (l, v) :: rest else (l, w) :: insert k v rest

end Key

/-- What is known while a document is given its value: the nodes, what stands for each of them, the
cells that are done, and the collections that are met but not looked at, the latest first. -/
structure Construction where
  graph : Graph
  known : Value.Known
  cells : List (NodeId × Value) := []
  met : List NodeId := []

/-- A computation that gives values to nodes. -/
abbrev Construct := StateT Construction (Except Fault)

namespace Construct

/-- What stands for a node: the value of a scalar, or the cell of a collection. -/
def value (id : NodeId) : Construct Value := do
  let c ← get
  match c.known.get? id with
  | some v => return v
  | none =>
    if (c.graph.node id).tag.isCollection then
      set { c with known := c.known.setIfInBounds id (some (.again id)), met := id :: c.met }
      return .again id
    else
      let v ← c.graph.scalarValue id
      set { c with known := c.known.setIfInBounds id (some v) }
      return v

/-- The key at a node: it cannot be a collection.  What is written `.nan` is always the same key. -/
def key (id : NodeId) : Construct Key := do
  let v ← value id
  if !v.isKey then throw .construction
  match (← get).graph.scalarText id with
  | .ok text => return ⟨v, if Scalar.isNotANumber text then 0 else id + 1⟩
  | .error _ => return ⟨v, id + 1⟩

/-- A list item that is a pair: a mapping with a single entry. -/
def pair (id : NodeId) : Construct Value := do
  match (← get).graph.node id with
  | .mapping _ [(k, v)] => return .tuple [← value k, ← value v]
  | _ => throw .construction

/-- The entries of a mapping after merging, of which the last with one key decides. -/
def entries (id : NodeId) : Construct (List (Key × Value)) := do
  let g ← (← get).graph.flatten id
  modify fun c => { c with graph := g }
  (g.entriesOf id).foldlM (fun es e => do
    let k ← key e.1
    return Key.insert k (← value e.2) es) []

/-- What is in a collection. -/
def content (id : NodeId) : Construct Value := do
  match (← get).graph.node id with
  | .sequence .sequence items => .list <$> items.mapM value
  | .sequence .omap items | .sequence .pairs items => .list <$> items.mapM pair
  | .mapping .mapping _ => (fun es => .mapping (es.map fun e => (e.1.value, e.2))) <$> entries id
  | .mapping .set _ => (fun es => .set (es.map fun e => e.1.value)) <$> entries id
  | _ => throw .construction

/-- The collections that are met are looked at, depth by depth. -/
def rounds : (fuel : Nat) → Construct Unit
  | 0 => pure ()
  | fuel + 1 => do
    let now := (← get).met.reverse
    if now = [] then return
    modify fun c => { c with met := [] }
    for id in now do
      let v ← content id
      modify fun c => { c with cells := (id, v) :: c.cells }
    rounds fuel

/-- The cells with one more, by decreasing number. -/
def place (cell : NodeId × Value) : List (NodeId × Value) → List (NodeId × Value)
  | [] => [cell]
  | c :: rest => if cell.1 < c.1 then c :: place cell rest else cell :: c :: rest

/-- The value of a node and everything in it. -/
def whole (root : NodeId) : Construct Value := do
  let v ← value root
  rounds ((← get).graph.size + 1)
  let c ← get
  let innermostFirst := c.cells.foldr place []
  return match v with
  | .again n => Value.ofCells c.graph.size innermostFirst n
  | v => v

end Construct

/-- The value of a node of the graph. -/
def Graph.value (g : Graph) (root : NodeId) : Except Fault Value :=
  Prod.fst <$> (Construct.whole root).run { graph := g, known := Array.replicate g.size none }

end CompilerRunner.Yaml
