import CompilerRunner.Yaml.Node

/-!
# Yaml — Merge

Merge keys.  An entry whose key is `<<` brings in the entries of another mapping, or of several, of
which the first has the last word; the entries of the mapping itself come after them and so decide.
`Graph.flatten` works this out in place, when the value of a mapping is asked for: what a mapping
brings in is flattened first, and since that may lead back to the mapping itself, each merge entry
is removed before it is followed.  So no merge entry is followed twice, and their number bounds how
deep the work goes.
-/

namespace CompilerRunner.Yaml

namespace Graph

/-- The entries of a mapping as they stand. -/
def entriesOf (g : Graph) (id : NodeId) : List (NodeId × NodeId) :=
  match g.node id with
  | .mapping _ entries => entries
  | _ => []

/-- The graph with other entries of a mapping. -/
def withEntries (g : Graph) (id : NodeId) (entries : List (NodeId × NodeId)) : Graph :=
  g.put id (.mapping (g.node id).tag entries)

/-- The number of merge entries in the graph. -/
def mergeCount (g : Graph) : Nat :=
  g.foldl (fun n node =>
    match node with
    | .mapping _ entries => n + (entries.filter fun e => (g.node e.1).tag = .merge).length
    | _ => n) 0

/-- What `flattenFirst` leaves of the sequence of mappings that a merge key brings in: their
entries, those of the last mapping first. -/
def flattenEach (flattenFirst : Graph → NodeId → Except Fault Graph) (g : Graph) :
    List NodeId → Except Fault (List (NodeId × NodeId) × Graph)
  | [] => .ok ([], g)
  | id :: rest => do
    match g.node id with
    | .mapping _ _ =>
      let g ← flattenFirst g id
      let own := g.entriesOf id
      let (others, g) ← flattenEach flattenFirst g rest
      return (others ++ own, g)
    | _ => throw .construction

/-- The entries that the value of a merge key brings in. -/
def brought (flattenFirst : Graph → NodeId → Except Fault Graph) (g : Graph) (id : NodeId) :
    Except Fault (List (NodeId × NodeId) × Graph) :=
  match g.node id with
  | .sequence _ items => flattenEach flattenFirst g items
  | _ => flattenEach flattenFirst g [id]

/-- The mapping with its merge entries worked out from some entry on; `kept` are the entries before
it, the latest first, and `merged` those that are brought in so far.  If what is brought in has led
back to the mapping, nothing is left to do there. -/
def flattenFrom (flattenFirst : Graph → NodeId → Except Fault Graph) (id : NodeId) (g : Graph)
    (kept merged : List (NodeId × NodeId)) : List (NodeId × NodeId) → Except Fault Graph
  | [] => .ok (if merged = [] then g else g.withEntries id (merged ++ g.entriesOf id))
  | (k, v) :: rest => do
    match (g.node k).tag with
    | .merge =>
      let others := kept.reverse ++ rest
      let (entries, g) ← brought flattenFirst (g.withEntries id others) v
      let merged := merged ++ entries
      if g.entriesOf id = others then flattenFrom flattenFirst id g kept merged rest
      else
        return if merged = [] then g else g.withEntries id (merged ++ g.entriesOf id)
    | .value =>
      let g := g.put k ((g.node k).withTag .text)
      flattenFrom flattenFirst id g ((k, v) :: kept) merged rest
    | _ => flattenFrom flattenFirst id g ((k, v) :: kept) merged rest

/-- The graph with the merge entries of a mapping worked out, of which at most `fuel` are followed
one inside another.  The key `=` becomes an ordinary text. -/
def flattenWithin : (fuel : Nat) → Graph → NodeId → Except Fault Graph
  | 0, g, _ => .ok g
  | fuel + 1, g, id => flattenFrom (flattenWithin fuel) id g [] [] (g.entriesOf id)

/-- The graph with the merge entries of a mapping worked out. -/
def flatten (g : Graph) (id : NodeId) : Except Fault Graph :=
  flattenWithin (g.mergeCount + 1) g id

end Graph

end CompilerRunner.Yaml
