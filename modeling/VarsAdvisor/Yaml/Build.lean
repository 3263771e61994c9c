import VarsAdvisor.Yaml.Node
import VarsAdvisor.Yaml.Value
import VarsAdvisor.Yaml.Scalar.Number
import VarsAdvisor.Yaml.Scalar.Moment
import VarsAdvisor.Yaml.Scalar.Binary

/-!
# Building values

Whether the nodes of a document have values of their types. Values are built from the root on. The
value of a collection is there at once; what it holds is built later, after everything that was put
off before it, or at once where `deep` is on. A node that is met again while its own value is being
built is null there, and building stays deep from then on. A collection that is built inside another
one takes four calls that last until it is built.
-/

namespace VarsAdvisor.Yaml

open VarsAdvisor.Text

/-- The progress of building: the nodes, the values of those that have one, what their collections
hold so far, the nodes that are being built, and those whose parts are put off, in reverse order. -/
structure Progress where
  nodes : Array Node
  values : Array (Option Value)
  holdings : Array Holding
  building : List Nat
  putOff : List Nat
  deep : Bool

/-- Before anything is built. -/
def Progress.start (nodes : Array Node) : Progress :=
  ⟨nodes, nodes.map fun _ => none, nodes.map fun _ => .empty, [], [], false⟩

/-- A step of building. -/
abbrev Build (α : Type) := StateT Progress (Except Failure) α

namespace Build

/-- Fails with a problem. -/
def fail {α : Type} (p : Problem) (place : Nat) : Build α :=
  throw (.problem p (some place))

/-- Fails with a mishap. -/
def failWith {α : Type} (m : Mishap) : Build α :=
  throw (.mishap m)

/-- Passes a mishap on. -/
def ofExcept {α : Type} (r : Except Mishap α) : Build α :=
  match r with
  | .ok a => pure a
  | .error m => failWith m

/-- The node with a number. -/
def node (number : Nat) : Build Node := do
  pure (nodeAt (← get).nodes number)

/-- Changes the node with a number. -/
def modifyNode (number : Nat) (f : Node → Node) : Build Unit :=
  modify fun s => { s with nodes := s.nodes.modify number f }

/-- What the collection of a node holds so far. -/
def holding (number : Nat) : Build Holding := do
  pure ((← get).holdings.getD number .empty)

/-- Changes what the collection of a node holds. -/
def modifyHolding (number : Nat) (f : Holding → Holding) : Build Unit :=
  modify fun s => { s with holdings := s.holdings.modify number f }

/-- What a node holds as a message shows it. -/
def shown (number : Nat) : Build WideText := do
  ofExcept (contentText (← get).nodes number)

/-! ## Atoms -/

/-- The value of a scalar of one of YAML's own types. A timestamp is read with the marks of folded
lines in it. -/
def readScalar (oldVersion : Bool) (t : CoreType) (number : Nat) (text : WideText) (folded : Bool)
    (place : Nat) : Build Value := do
  let plain := scalarText text folded
  let a ← match t with
    | .null => pure .null
    | .bool => ofExcept (readTruth plain.shape)
    | .int => ofExcept (.whole <$> readInt oldVersion plain.shape)
    | .float => ofExcept (readFloat oldVersion number plain.shape)
    | .binary => match readBinary plain with
      | .ok bytes => pure (.bytes bytes)
      | .error p => fail p place
    | .timestamp => match text.string?.bind (readTimestamp? ·.toList) with
      | some form => ofExcept (readMoment form)
      | none => fail (.notATimestamp text) place
    | _ => pure (.text plain)
  pure (.atom a)

/-- The value of a node before its parts are built; of a collection with a scalar's type there is
none. A text that is a collection is left as it is, as is anything with a type that is not known. -/
def readNode (oldVersion : Bool) (number : Nat) (n : Node) : Build Value :=
  let asIs : CollectionKind := match n.content with
    | .mapping _ => .mapping
    | _ => .sequence
  match n.tag, n.content with
  | .core .seq, _ => pure (.collection .sequence number)
  | .core .map, _ => pure (.collection .mapping number)
  | .core .pairs, _ => pure (.collection .pairs number)
  | .core .omap, .scalar .. => failWith (.noAttribute "ScalarNode" "flow_style")
  | .core .omap, _ => pure (.collection .ordered number)
  | .core .set, .scalar .. => failWith (.noAttribute "ScalarNode" "flow_style")
  | .core .set, _ => pure (.collection .set number)
  | .core t, .scalar text folded => readScalar oldVersion t number text folded n.place
  | .core .str, _ => pure (.collection asIs number)
  | .core .timestamp, _ => do fail (.notATimestamp (← shown number)) n.place
  | .core _, c => fail (.expectedKind .scalar c.kind) n.place
  | _, .scalar .. => pure (.atom (.own number))
  | _, _ => pure (.collection asIs number)

/-! ## Keys -/

/-- What of a value becomes the key of a mapping. -/
def keyParts (v : Value) (place : Nat) : Build KeyParts :=
  match v with
  | .atom a => pure (.atom a)
  | .collection .sequence number => do pure (.items (← holding number).items)
  | .collection .pairs _ => failWith (.noAttribute "list" "lc")
  | .collection .set _ => fail .unhashableKey place
  | .collection _ number => do pure (.entries (← holding number).entries)

/-- What of a value becomes a key in a set. -/
def setKeyParts (v : Value) (place : Nat) : Build KeyParts :=
  match v with
  | .atom a => pure (.atom a)
  | .collection .sequence number => do pure (.items (← holding number).items)
  | .collection .pairs number => do pure (.items (← holding number).items)
  | .collection _ _ => fail .unhashableKey place

/-! ## Merge keys -/

/-- A step that gives the value of a node, at once with its parts if the flag is set. -/
abbrev Builder := Nat → Bool → Build Value

/-- The values that a merge key with this value merges in. -/
def mergedValues (build : Builder) (v : Nat) : Build (List Value) := do
  let n ← node v
  match n.content with
  | .mapping _ => pure [← build v true]
  | .sequence items => do
    let _ ← build v true
    items.mapM fun i => do
      let item ← node i
      match item.content with
      | .mapping _ => build i true
      | c => fail (.mergeOfItem c.kind) item.place
  | .scalar .. => fail .mergeOfScalar n.place

/-- Takes the merge keys out of a mapping's pairs, those before `rest` being `kept` in reverse
order, and gives what they merge in. A key `=` is a text. Only the last merge key may have something
to merge in. -/
def takeMerges (build : Builder) (number : Nat) (kept : List (Nat × Nat)) (merged : List Value) :
    List (Nat × Nat) → Build (List Value)
  | [] => pure merged
  | (k, v) :: rest => do
    let key ← node k
    if key.tag = .merge then
      if !merged.isEmpty then fail (.repeatedMerge (← shown k)) key.place
      else
        modifyNode number fun n => { n with content := .mapping (kept.reverse ++ rest) }
        let values ← mergedValues build v
        takeMerges build number kept values rest
    else
      if key.tag = .other valueUri then modifyNode k fun n => { n with tag := .core .str }
      else pure ()
      takeMerges build number ((k, v) :: kept) merged rest

/-- Adds what a mapping has to another one; only mappings can be merged in. -/
def merge (number : Nat) (v : Value) : Build Unit :=
  match v with
  | .collection .mapping m => do
    for (k, v) in (← holding m).entries do
      modifyHolding number (·.insert k v)
  | .collection kind _ => failWith (.noAttribute kind.typeName "add_referent")
  | .atom _ => failWith (.noAttribute "NoneType" "add_referent")

/-! ## Collections -/

/-- The entries of a mapping, and behind them what is merged in. A key is taken as it is before its
value is built. -/
def buildEntries (build : Builder) (number : Nat) (deep : Bool) : Build Unit := do
  let n ← node number
  match n.content with
  | .mapping pairs => do
    let merges ← takeMerges build number [] [] pairs
    match (← node number).content with
    | .mapping pairs =>
      for (k, v) in pairs do
        let parts ← keyParts (← build k true) (← node k).place
        let value ← build v deep
        let key ← ofExcept parts.key
        modifyHolding number (·.insert key value)
    | _ => pure ()
    for v in merges do
      merge number v
  | c => fail (.expectedKind .mapping c.kind) n.place

/-- The items of a sequence; it holds them when all of them are built. -/
def buildItems (build : Builder) (number : Nat) : Build Unit := do
  let n ← node number
  match n.content with
  | .sequence items => do
    let values ← items.mapM fun i => build i false
    modifyHolding number fun _ => ⟨values, []⟩
  | c => fail (.expectedKind .sequence c.kind) n.place

/-- The parts of a set: the keys of a mapping. -/
def buildSet (build : Builder) (number : Nat) : Build Unit := do
  let n ← node number
  match n.content with
  | .mapping pairs =>
    for (k, v) in pairs do
      let parts ← setKeyParts (← build k true) (← node k).place
      let _ ← build v false
      let _ ← ofExcept parts.key
  | c => fail (.expectedKind .mapping c.kind) n.place

/-- The single pair that an item of a list of pairs has to be. -/
def singlePair (number : Nat) : Build (Nat × Nat) := do
  let n ← node number
  match n.content with
  | .mapping [pair] => pure pair
  | .mapping pairs => fail (.expectedSinglePair pairs.length) n.place
  | c => fail (.expectedPair c.kind) n.place

/-- The entries of an ordered mapping, whose keys are atoms and differ. -/
def buildOrdered (build : Builder) (number : Nat) : Build Unit := do
  let n ← node number
  match n.content with
  | .sequence items =>
    for i in items do
      let (k, v) ← singlePair i
      let key ← Key.atom <$> ofExcept (← build k false).part
      if (← holding number).hasKey key then failWith .assertion else pure ()
      let value ← build v false
      modifyHolding number (·.insert key value)
  | c => fail (.expectedPairs c.kind) n.place

/-- The pairs of a list of pairs. -/
def buildPairs (build : Builder) (number : Nat) : Build Unit := do
  let n ← node number
  match n.content with
  | .sequence items =>
    for i in items do
      let (k, v) ← singlePair i
      let key ← build k false
      let value ← build v false
      modifyHolding number fun h => { h with items := h.items ++ [key, value] }
  | c => fail (.expectedPairs c.kind) n.place

/-- The parts of a node. A type that is not known has any parts, but if they cannot be built the
type is blamed. -/
def buildParts (build : Builder) (number : Nat) : Build Unit := do
  let n ← node number
  match n.tag with
  | .core .seq => buildItems build number
  | .core .map => buildEntries build number true
  | .core .set => buildSet build number
  | .core .omap => buildOrdered build number
  | .core .pairs => buildPairs build number
  | t =>
    let parts : Build Unit := match n.content with
      | .scalar .. => pure ()
      | .sequence _ => buildItems build number
      | .mapping _ => buildEntries build number false
    tryCatch parts fun _ => fail (.noTypeForTag t.uri) n.place

/-- Builds the parts of a collection, or puts them off. -/
def buildOrPutOff (build : Builder) (number : Nat) : Build Unit := do
  if (← get).deep then buildParts build number
  else modify fun s => { s with putOff := number :: s.putOff }

/-- The value of a node. With `deep` its parts are built at once. There is room for `fuel` nodes
inside one another. -/
def buildNode (oldVersion : Bool) : Nat → Builder
  | 0, _, _ => failWith .nesting
  | fuel + 1, number, deep => do
    let s ← get
    match s.values.getD number none with
    | some v => pure v
    | none => do
      if deep then modify fun s => { s with deep := true } else pure ()
      if s.building.contains number then pure .null
      else do
        modify fun s => { s with building := number :: s.building }
        let v ← readNode oldVersion number (← node number)
        match v with
        | .collection .. => buildOrPutOff (buildNode oldVersion fuel) number
        | .atom _ => pure ()
        modify fun t =>
          { t with
            values := t.values.modify number fun _ => some v
            building := t.building.filter (· != number)
            deep := if deep then s.deep else t.deep }
        pure v

/-- The parts that were put off, and those that are put off meanwhile. -/
def buildPutOff (oldVersion : Bool) : Nat → Build Unit
  | 0 => pure ()
  | fuel + 1 => do
    let s ← get
    if s.putOff.isEmpty then pure ()
    else do
      set { s with putOff := [] }
      for number in s.putOff.reverse do
        buildParts (buildNode oldVersion (callRoom / 4)) number
      buildPutOff oldVersion fuel

/-- The value of a document. -/
def buildDocument (oldVersion : Bool) (root : Nat) : Build Unit := do
  let _ ← buildNode oldVersion (callRoom / 4) root false
  buildPutOff oldVersion ((← get).nodes.size + 1)

end Build

/-- Fails if a node of a document has no value of its type. -/
def checkValues (nodes : Array Node) (oldVersion : Bool) (root : Nat) : Except Failure Unit :=
  (Build.buildDocument oldVersion root).run' (Progress.start nodes)

end VarsAdvisor.Yaml
