import CompilerRunner.Registry.Linearization
import CompilerRunner.Registry.Model

/-!
# Registry

Interfaces and their implementations.  A class that is given a key and has no registry among its
bases becomes an interface: it owns a new, empty registry of that name.  A class that is given a key
and has one is recorded in the registry of the first such base.  `State.index` lists the keys of
every registry name beside the registries themselves.  `shipped` is the state with the two entry
points.
-/

namespace CompilerRunner.Registry

/-- How an instance of a class is run. -/
inductive Behaviour where
  | demanded
  | counting
  | inherited
  | entryPoint
deriving DecidableEq

/-- How an instance of a class is made: from anything, which it keeps, or as a shipped entry point.
-/
inductive Construction where
  | recording
  | entryPoint
deriving DecidableEq

/-- A class: the order in which members are searched, whether it is kept track of by registries, and
the members that it has of its own. -/
structure Class where
  name : String
  order : List ClassId
  tracked : Bool
  makesInstances : Bool := false
  construction : Option Construction := none
  behaviour : Option Behaviour := none

/-- An implementation that is registered under a key. -/
structure Registered where
  implementation : ClassId
  model : Option Model

/-- The implementations of an interface, by key. -/
structure Catalog where
  name : String
  entries : Table Registered

/-- All classes by number, the names that are known, the registries by owner, and the keys by name
of the registry. -/
structure State where
  classes : List Class := []
  known : Table ClassId := []
  catalogs : List (ClassId × Catalog) := []
  index : Table (List String) := []

/-- What a class is to be. -/
structure Definition where
  name : String
  bases : List ClassId
  tracked : Bool := true
  key : Option String := none
  model : Option Model := none
  makesInstances : Bool := false
  construction : Option Construction := none
  behaviour : Option Behaviour := none

namespace State

/-- The order in which the members of a class are searched. -/
def orderOf (s : State) (c : ClassId) : List ClassId :=
  match s.classes[c]? with
  | some k => k.order
  | none => [c]

/-- The registry that the class owns. -/
def catalog? (s : State) (c : ClassId) : Option Catalog := s.catalogs.lookup c

/-- The owner of the registry that the class has or inherits. -/
def owner? (s : State) (c : ClassId) : Option ClassId :=
  (s.orderOf c).find? fun d => (s.catalog? d).isSome

/-- The owner of the registry that the class has or inherits, if it is kept track of. -/
def interface? (s : State) (c : ClassId) : Option ClassId :=
  match s.classes[c]? with
  | some k => if k.tracked then s.owner? c else none
  | none => none

/-- The registries with the entry put into that of the owner. -/
def putEntry (catalogs : List (ClassId × Catalog)) (owner : ClassId) (key : String)
    (r : Registered) : List (ClassId × Catalog) :=
  catalogs.map fun (c, k) =>
    if c = owner then (c, { k with entries := k.entries.insert key r }) else (c, k)

/-- The index with the key among those of the name. -/
def putKey (index : Table (List String)) (name key : String) : Table (List String) :=
  let keys := (index.get? name).getD []
  index.insert name (if keys.contains key then keys else keys ++ [key])

/-- The class with the key becomes an interface, or is registered with the first base that has a
registry. -/
def register (s : State) (c : ClassId) (bases : List ClassId) (key : String)
    (model : Option Model) : State :=
  match bases.findSome? s.interface? with
  | none =>
    { s with
      catalogs := (c, { name := key, entries := [] }) :: s.catalogs
      index := s.index.insert key [] }
  | some owner =>
    let name := ((s.catalog? owner).map Catalog.name).getD key
    { s with
      catalogs := putEntry s.catalogs owner key { implementation := c, model }
      index := putKey s.index name key }

/-- The state with one more class, unless its bases have no common order. -/
def define (s : State) (d : Definition) : Except Crash State :=
  let own := s.classes.length
  match linearize own d.bases s.orderOf with
  | none => .error .wrongType
  | some order =>
    let k : Class :=
      { name := d.name
        order
        tracked := d.tracked
        makesInstances := d.makesInstances
        construction := d.construction
        behaviour := d.behaviour }
    let s := { s with classes := s.classes ++ [k], known := s.known.insert d.name own }
    match d.key with
    | some key => .ok (s.register own d.bases key d.model)
    | none => .ok s

/-- The keys of a registry in increasing order. -/
def sortedKeys (c : Catalog) : List String := Text.sorted c.entries.names

/-- The first class in the order of `c` that has the member. -/
def member? {α : Type} (s : State) (order : List ClassId) (part : Class → Option α) :
    Option (ClassId × α) :=
  order.findSome? fun d => (s.classes[d]?.bind part).map fun a => (d, a)

end State

/-- An instance of a registered class: what it was made with if it keeps that, and the entry point
if it is one. -/
structure Instance where
  implementation : ClassId
  received : Option (List Value × Table Value) := none
  entryPoint : Option EntryPoint := none

/-- The arguments by name, unless one of them is given twice. -/
def joinNames (given configured : Table Value) : Except Failure (Table Value) :=
  if configured.any fun e => (given.get? e.1).isSome then .error (.crash .wrongType)
  else .ok (given ++ configured)

/-- The instance of a class made with arguments by place and by name. -/
def make (s : State) (c : ClassId) (arguments : List Value) (named : Table Value)
    (configured : Configured) : Except Failure Instance := do
  let order := s.orderOf c
  let abstract := (s.member? order Class.behaviour).any fun b => b.2 = .demanded
  let construction := (s.member? order Class.construction).map Prod.snd
  let none_ := arguments.isEmpty && named.isEmpty
  match configured, construction with
  | .entryPoint e, some .entryPoint =>
    if none_ then return { implementation := c, entryPoint := some (← e.checked.mapError .tool) }
    else throw (.crash .wrongType)
  | .values t, some .recording =>
    let all ← joinNames named t
    if abstract then throw (.crash .wrongType)
    return { implementation := c, received := some (arguments, all) }
  | .values t, none =>
    if none_ ∧ t.isEmpty ∧ ¬ abstract then return { implementation := c }
    else throw (.crash .wrongType)
  | _, _ => throw (.crash .wrongType)

/-- The instance of the implementation that is registered under the key of an interface. -/
def new (s : State) (interface : ClassId) (key : String) (settings : Settings)
    (arguments : List Value) (named : Table Value) : Except Failure Instance := do
  let order := s.orderOf interface
  let canMake := order.any fun d => (s.classes[d]?).any Class.makesInstances
  match canMake, (s.owner? interface).bind s.catalog? with
  | true, some catalog =>
    match catalog.entries.get? key with
    | none => throw (.settings (.unknownKey catalog.name key (State.sortedKeys catalog)))
    | some r =>
      let fields := Settings.entriesOf (settings.configuration catalog.name key)
      let configured ←
        match r.model with
        | none => .ok (.values [])
        | some m =>
          (m.check settings.currentDirectory fields).mapError fun rejection =>
            .settings (.invalidConfiguration catalog.name key rejection)
      make s r.implementation arguments named configured
  | _, _ => throw (.crash .unknownAttribute)

/-- The run of an instance, from the behaviours that are left in the order of its class. -/
def runFrom (w : World) (s : State) (i : Instance) (arguments : List String) :
    List ClassId → Run InvocationResult
  | [] => Run.fail (.crash .unknownAttribute)
  | c :: rest =>
    match (s.classes[c]?).bind Class.behaviour with
    | none | some .inherited => runFrom w s i arguments rest
    | some .demanded => Run.fail (.crash .notImplemented)
    | some .counting => pure { exitCode := arguments.length }
    | some .entryPoint =>
      match i.entryPoint with
      | some e => (e.tool w).run arguments
      | none => Run.fail (.crash .wrongType)

/-- The run of an instance with the arguments. -/
def Instance.run (w : World) (s : State) (i : Instance) (arguments : List String) :
    Run InvocationResult :=
  runFrom w s i arguments (s.orderOf i.implementation)

/-- The classes that exist from the start, in the order of their definition. -/
def shippedDefinitions : List Definition :=
  [{ name := "Component", bases := [], makesInstances := true },
    { name := "EntryPoint", bases := [0], key := some EntryPoint.registry
      behaviour := some .demanded },
    { name := "SubprocessEntryPoint", bases := [1], key := some EntryPoint.Kind.subprocess.key
      model := some (.entryPoint .subprocess), construction := some .entryPoint
      behaviour := some .entryPoint },
    { name := "CallableEntryPoint", bases := [1], key := some EntryPoint.Kind.callable.key
      model := some (.entryPoint .callable), construction := some .entryPoint
      behaviour := some .entryPoint },
    { name := "Plain", bases := [], tracked := false }]

/-- The definitions carried out one after the other; one that is refused changes nothing. -/
def State.defineAll (s : State) (ds : List Definition) : State :=
  ds.foldl (fun s d => (s.define d).toOption.getD s) s

/-- The state with the shipped classes. -/
def shipped : State := State.defineAll {} shippedDefinitions

end CompilerRunner.Registry
