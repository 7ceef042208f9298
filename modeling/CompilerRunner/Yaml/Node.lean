import CompilerRunner.Yaml.Tag
import CompilerRunner.Yaml.Token.Stream

/-!
# Yaml — Node

The nodes of a document, read from its tokens.  A node refers to the nodes inside it by their places
in a `Graph`, so that an alias is one more reference to the node that its anchor named before, also
inside that node itself.  The reading functions carry fuel; each of their calls takes a token or
follows one that did.
-/

namespace CompilerRunner.Yaml

/-- The place of a node in a graph. -/
abbrev NodeId := Nat

/-- A node of a document. -/
inductive Node where
  | scalar (tag : Tag) (text : String)
  | sequence (tag : Tag) (items : List NodeId)
  | mapping (tag : Tag) (entries : List (NodeId × NodeId))
deriving DecidableEq

/-- The nodes of a document. -/
abbrev Graph := Array Node

/-- The tag of a node. -/
def Node.tag : Node → Tag
  | scalar t _ | sequence t _ | mapping t _ => t

/-- The node with another tag. -/
def Node.withTag (t : Tag) : Node → Node
  | scalar _ text => scalar t text
  | sequence _ items => sequence t items
  | mapping _ entries => mapping t entries

/-- A scalar that is not there. -/
def Node.absent : Node := .scalar .null ""

/-- The node at a place. -/
def Graph.node (g : Graph) (id : NodeId) : Node := g[id]?.getD .absent

/-- The graph with another node at a place. -/
def Graph.put (g : Graph) (id : NodeId) (n : Node) : Graph := g.setIfInBounds id n

/-- The tokens that are left, the fault they end with, what names mean, the nodes that are read, and
the number of collections that are open. -/
structure Reading where
  tokens : List Token
  ending : Option Fault
  handles : List (String × String)
  anchors : List (String × NodeId) := []
  nodes : Graph := #[]
  depth : Nat := 0

/-- A computation that takes tokens. -/
abbrev Compose := StateT Reading (Except Fault)

namespace Compose

/-- The handles that need no directive. -/
def standardHandles : List (String × String) := [("!", "!"), ("!!", Tag.standard)]

/-- The next token. -/
def look : Compose Token := do
  let r ← get
  match r.tokens, r.ending with
  | t :: _, _ => return t
  | [], some f => throw f
  | [], none => return .streamEnd

/-- The next token is taken. -/
def take : Compose Unit := modify fun r => { r with tokens := r.tokens.drop 1 }

/-- The next token, if it is this one, is taken. -/
def takeIf (t : Token) : Compose Bool := do
  if (← look) = t then
    take
    return true
  else return false

/-- The next token must be this one. -/
def expect (t : Token) : Compose Unit := do
  if !(← takeIf t) then throw .nesting

/-- The anchor here, if there is one. -/
def anchor : Compose (Option String) := do
  match ← look with
  | .anchor name =>
    take
    return some name
  | _ => return none

/-- The tag here, with its handle written out, if there is one. -/
def tag : Compose (Option (Option String × String)) := do
  match ← look with
  | .tag handle suffix =>
    take
    return some (handle, suffix)
  | _ => return none

/-- The anchor and the tag in front of a node, in either order. -/
def properties : Compose (Option String × Option String) := do
  let (name, tag) ←
    match ← anchor with
    | some name => do pure (some name, ← tag)
    | none =>
      match ← tag with
      | some t => do pure (← anchor, some t)
      | none => pure (none, none)
  match tag with
  | none => return (name, none)
  | some (none, suffix) => return (name, some suffix)
  | some (some handle, suffix) =>
    match (← get).handles.lookup handle with
    | some meaning => return (name, some (meaning ++ suffix))
    | none => throw .nesting

/-- The name means the node from here on. -/
def bindAnchor (name : Option String) (id : NodeId) : Compose Unit :=
  match name with
  | some a => modify fun r => { r with anchors := (a, id) :: r.anchors }
  | none => pure ()

/-- A name may be given to one node only. -/
def checkAnchor (name : Option String) : Compose Unit := do
  match name with
  | some a => if ((← get).anchors.lookup a).isSome then throw .composition
  | none => pure ()

/-- The node of a scalar: the lone tag `!` asks for the tag that the text has by itself. -/
def scalarNode (tag : Option String) (text : String) (plain : Bool) : Node :=
  match tag with
  | none => .scalar (if plain then Tag.ofPlain text else .text) text
  | some "!" => .scalar (Tag.ofPlain text) text
  | some uri => .scalar (Tag.ofUri uri) text

/-- The tag of a collection, `default` if none is given. -/
def collectionTag (tag : Option String) (default : Tag) : Tag :=
  match tag with
  | none | some "!" => default
  | some uri => Tag.ofUri uri

/-- A new node at a place of its own. -/
def add (n : Node) : Compose NodeId :=
  modifyGet fun r => (r.nodes.size, { r with nodes := r.nodes.push n })

/-- A scalar under its name. -/
def addScalar (name : Option String) (n : Node) : Compose NodeId := do
  checkAnchor name
  let id ← add n
  bindAnchor name id
  return id

/-- A scalar that is not there. -/
def absent : Compose NodeId := add .absent

/-- The next token is one of these. -/
def atOneOf (ts : List Token) : Compose Bool := return ts.contains (← look)

/-- The most collections that may be open at once. -/
def depthLimit : Nat := 485

/-- The collection that `read` reads, under its name, which means the collection already while it is
read. -/
def named (name : Option String) (read : Compose Node) : Compose NodeId := do
  checkAnchor name
  let id ← add .absent
  bindAnchor name id
  if depthLimit ≤ (← get).depth then throw (.accident .endless)
  modify fun r => { r with depth := r.depth + 1 }
  let n ← read
  modify fun r => { r with depth := r.depth - 1, nodes := Graph.put r.nodes id n }
  return id

mutual

/-- A node: in a block if `block`, and with the items of a sequence at the column of the key before
it if `indentless`. -/
def node (block indentless : Bool) : (fuel : Nat) → Compose NodeId
  | 0 => throw .nesting
  | fuel + 1 => do
    match ← look with
    | .alias name =>
      take
      match (← get).anchors.lookup name with
      | some n => return n
      | none => throw .composition
    | _ =>
      let (name, tag) ← properties
      match indentless, block, ← look with
      | true, _, .blockEntry =>
        named name (Node.sequence (collectionTag tag .sequence) <$> indentlessItems fuel)
      | _, _, .scalar text plain =>
        take
        addScalar name (scalarNode tag text plain)
      | _, _, .flowSequenceStart =>
        named name do
          take
          Node.sequence (collectionTag tag .sequence) <$> flowItems true fuel
      | _, _, .flowMappingStart =>
        named name do
          take
          Node.mapping (collectionTag tag .mapping) <$> flowEntries true fuel
      | _, true, .blockSequenceStart =>
        named name do
          take
          Node.sequence (collectionTag tag .sequence) <$> blockItems fuel
      | _, true, .blockMappingStart =>
        named name do
          take
          Node.mapping (collectionTag tag .mapping) <$> blockEntries fuel
      | _, _, _ =>
        if name.isSome || tag.isSome then addScalar name (scalarNode tag "" true)
        else throw .nesting

/-- A node in a block, or an absent one before one of the tokens. -/
def blockNode (indentless : Bool) (stops : List Token) : (fuel : Nat) → Compose NodeId
  | 0 => throw .nesting
  | fuel + 1 => do
    if ← atOneOf stops then absent else node true indentless fuel

/-- A node between brackets, or an absent one before one of the tokens. -/
def flowNode (stops : List Token) : (fuel : Nat) → Compose NodeId
  | 0 => throw .nesting
  | fuel + 1 => do
    if ← atOneOf stops then absent else node false false fuel

/-- The items of a block sequence, up to its end. -/
def blockItems : (fuel : Nat) → Compose (List NodeId)
  | 0 => throw .nesting
  | fuel + 1 => do
    if ← takeIf .blockEntry then
      let n ← blockNode false [.blockEntry, .blockEnd] fuel
      return n :: (← blockItems fuel)
    else
      expect .blockEnd
      return []

/-- The items of a sequence at the column of its key. -/
def indentlessItems : (fuel : Nat) → Compose (List NodeId)
  | 0 => throw .nesting
  | fuel + 1 => do
    if ← takeIf .blockEntry then
      let n ← blockNode false [.blockEntry, .key, .value, .blockEnd] fuel
      return n :: (← indentlessItems fuel)
    else return []

/-- The entries of a block mapping, up to its end. -/
def blockEntries : (fuel : Nat) → Compose (List (NodeId × NodeId))
  | 0 => throw .nesting
  | fuel + 1 => do
    if ← takeIf .key then
      let stops := [Token.key, .value, .blockEnd]
      let k ← blockNode true stops fuel
      let v ← if ← takeIf .value then blockNode true stops fuel else absent
      return (k, v) :: (← blockEntries fuel)
    else
      expect .blockEnd
      return []

/-- The items of a sequence between brackets, up to its end.  A key among them makes a mapping of a
single entry. -/
def flowItems (first : Bool) : (fuel : Nat) → Compose (List NodeId)
  | 0 => throw .nesting
  | fuel + 1 => do
    if ← takeIf .flowSequenceEnd then return []
    if !first then expect .flowEntry
    if ← takeIf .key then
      let pair ← named none do
        let k ← flowNode [.value, .flowEntry, .flowSequenceEnd] fuel
        let v ← if ← takeIf .value then flowNode [.flowEntry, .flowSequenceEnd] fuel else absent
        return .mapping .mapping [(k, v)]
      return pair :: (← flowItems false fuel)
    else if ← takeIf .flowSequenceEnd then return []
    else
      let n ← node false false fuel
      return n :: (← flowItems false fuel)

/-- The entries of a mapping between brackets, up to its end. -/
def flowEntries (first : Bool) : (fuel : Nat) → Compose (List (NodeId × NodeId))
  | 0 => throw .nesting
  | fuel + 1 => do
    if ← takeIf .flowMappingEnd then return []
    if !first then expect .flowEntry
    if ← takeIf .key then
      let k ← flowNode [.value, .flowEntry, .flowMappingEnd] fuel
      let v ← if ← takeIf .value then flowNode [.flowEntry, .flowMappingEnd] fuel else absent
      return (k, v) :: (← flowEntries false fuel)
    else if ← takeIf .flowMappingEnd then return []
    else
      let k ← node false false fuel
      return (k, ← absent) :: (← flowEntries false fuel)

end

/-- The directives before a document: one version at most, which must be 1, and no handle twice. -/
def directives (version : Bool) (handles : List (String × String)) : (fuel : Nat) → Compose Unit
  | 0 => throw .nesting
  | fuel + 1 => do
    match ← look with
    | .directive d =>
      take
      match d with
      | .version major _ =>
        if version ∨ major ≠ 1 then throw .nesting
        directives true handles fuel
      | .tag handle meaning =>
        if (handles.lookup handle).isSome then throw .nesting
        directives version ((handle, meaning) :: handles) fuel
      | .other => directives version handles fuel
    | _ => modify fun r => { r with handles := handles ++ standardHandles }

/-- The ends of documents here are taken. -/
def skipEnds : (fuel : Nat) → Compose Unit
  | 0 => pure ()
  | fuel + 1 => do if ← takeIf .documentEnd then skipEnds fuel

/-- The start of a document, unless the stream ends. -/
def explicitStart (fuel : Nat) : Compose Bool := do
  skipEnds fuel
  if (← look) = .streamEnd then return false
  directives false [] fuel
  expect .documentStart
  return true

/-- The token begins a document whose start is marked, or none at all. -/
def isMarkedStart : Token → Bool
  | .directive _ | .documentStart | .streamEnd => true
  | _ => false

/-- The token ends a document before it has content. -/
def isContentEnd : Token → Bool
  | .directive _ | .documentStart | .documentEnd | .streamEnd => true
  | _ => false

/-- The node of the only document, if there is one. -/
def document (fuel : Nat) : Compose (Option NodeId) := do
  let content ←
    if isMarkedStart (← look) then
      if ← explicitStart fuel then
        if isContentEnd (← look) then some <$> absent
        else some <$> node true false fuel
      else return none
    else some <$> node true false fuel
  discard (takeIf .documentEnd)
  if ← explicitStart fuel then throw .composition
  return content

end Compose

/-- The nodes of a text and the one that the document consists of, if it has any content. -/
def Graph.ofText (text : List Char) : Except Fault (Option NodeId × Graph) :=
  if text.all isAdmissible then do
    let (ts, ending) := tokens text
    let start : Reading := { tokens := ts, ending, handles := Compose.standardHandles }
    let (root, r) ← (Compose.document (4 * ts.length + 8)).run start
    return (root, r.nodes)
  else .error .character

end CompilerRunner.Yaml
