import VarsAdvisor.Yaml.Event
import VarsAdvisor.Yaml.Scalar.Resolution

/-!
# Nodes of a document

The nodes of a document are numbered in the order in which they start. An alias is the number of
the node with the anchor it names, so a node may stand in several places, and even in itself. Putting
a collection together takes two calls that last until its end, and showing one takes four, so
collections cannot be nested without bound.
-/

namespace VarsAdvisor.Yaml

open VarsAdvisor.Text

/-- What a node holds; children are numbers of nodes. The lines of a scalar may be folded. -/
inductive Content where
  | scalar (text : WideText) (folded : Bool)
  | sequence (items : List Nat)
  | mapping (pairs : List (Nat × Nat))
  deriving DecidableEq, Repr

/-- The kind of a content. -/
def Content.kind : Content → NodeKind
  | .scalar .. => .scalar
  | .sequence _ => .sequence
  | .mapping _ => .mapping

/-- A node: its type, its anchor, its content and its place. -/
structure Node where
  tag : Tag
  anchor : Option String
  content : Content
  place : Nat
  deriving DecidableEq, Repr

/-- The text of a scalar as a value: the marks of folded lines are left out. -/
def scalarText (text : WideText) (folded : Bool) : WideText :=
  if folded then ⟨text.points.filter (· != .char foldMark)⟩ else text

/-- The node with a number. -/
def nodeAt (nodes : Array Node) (number : Nat) : Node :=
  nodes.getD number ⟨.core .null, none, .scalar "" false, 0⟩

mutual

/-- A node as it is shown in a message, inside the collections `within`. There is room for `fuel`
calls more. -/
def displayNode (nodes : Array Node) : Nat → List Nat → Nat → Except Mishap String
  | 0, _, _ => .error .nesting
  | fuel + 1, within, number => do
    let n := nodeAt nodes number
    let kind := match n.content with
      | .scalar .. => "ScalarNode"
      | .sequence _ => "SequenceNode"
      | .mapping _ => "MappingNode"
    let anchor := match n.anchor with
      | some name => s!", anchor={quoted name}"
      | none => ""
    let value ← match n.content with
      | .scalar text _ => pure text.quoted
      | _ => displayContent nodes fuel within number
    pure s!"{kind}(tag={quoted n.tag.uri}{anchor}, value={value})"

/-- What a node holds as it is shown in a message. A collection inside itself is not shown again. -/
def displayContent (nodes : Array Node) : Nat → List Nat → Nat → Except Mishap String
  | 0, _, _ => .error .nesting
  | fuel + 1, within, number =>
    if within.contains number then pure "[...]"
    else
      let part := displayNode nodes fuel (number :: within)
      let list (parts : List String) : String := "[" ++ ", ".intercalate parts ++ "]"
      match (nodeAt nodes number).content with
      | .scalar text _ => pure text.quoted
      | .sequence items => list <$> items.mapM part
      | .mapping pairs => list <$> pairs.mapM fun (k, v) => do
        pure s!"({← part k}, {← part v})"

end

/-- What a node holds as it is shown in a message. -/
def contentText (nodes : Array Node) (number : Nat) : Except Mishap WideText :=
  match (nodeAt nodes number).content with
  | .scalar text _ => pure text
  | _ => WideText.ofString <$> displayContent nodes (callRoom / 2) [] number

/-- A collection whose end has not come yet, with the children so far in reverse order. -/
inductive Open where
  | sequence (number : Nat) (items : List Nat)
  | mapping (number : Nat) (pairs : List (Nat × Nat)) (key : Option Nat)

/-- The state of putting nodes together. -/
structure Composition where
  nodes : Array Node
  anchors : List (String × Nat)
  stack : List Open
  root : Option Nat
  ended : Bool

namespace Composition

/-- Before the first event. -/
def start : Composition := ⟨#[], [], [], none, false⟩

/-- A node is complete as far as its parent is concerned. -/
def attach (c : Composition) (number : Nat) : Composition :=
  match c.stack with
  | [] => { c with root := some number }
  | .sequence n items :: rest => { c with stack := .sequence n (number :: items) :: rest }
  | .mapping n pairs none :: rest => { c with stack := .mapping n pairs (some number) :: rest }
  | .mapping n pairs (some k) :: rest =>
    { c with stack := .mapping n ((k, number) :: pairs) none :: rest }

/-- Adds a node, and its anchor if it has one. -/
def add (c : Composition) (n : Node) : Composition :=
  { c with
    nodes := c.nodes.push n
    anchors := match n.anchor with
      | some name => (name, c.nodes.size) :: c.anchors
      | none => c.anchors }

/-- Sets what a node holds. -/
def setContent (c : Composition) (number : Nat) (content : Content) : Composition :=
  { c with nodes := c.nodes.modify number fun n => { n with content := content } }

/-- A collection starts, if there is room for one more. -/
def openWith (c : Composition) (n : Node) (opened : Open) : Except Failure Composition :=
  if callRoom < 2 * (c.stack.length + 1) then .error (.mishap .nesting)
  else .ok { c.add n with stack := opened :: c.stack }

/-- The type of a collection. -/
def collectionTag (default : CoreType) : Option String → Tag
  | none => .core default
  | some uri => if uri = "!" then .core default else .ofUri uri

/-- The type of a scalar: a plain one without a tag, and any with the tag `!`, is resolved. -/
def scalarTag (oldVersion : Bool) (p : Properties) (text : WideText) (style : ScalarStyle) : Tag :=
  match p.tag with
  | some uri => if uri = "!" then resolvePlain oldVersion text.shape else .ofUri uri
  | none => if style = .plain then resolvePlain oldVersion text.shape else .core .str

/-- Takes one event in. -/
def take (c : Composition) (e : Event) (oldVersion : Bool) :
    Except Failure Composition :=
  match e.kind with
  | .streamStart => .ok c
  | .streamEnd => .ok c
  | .documentStart =>
    if c.ended then .error (.problem .anotherDocument (some e.place)) else .ok c
  | .documentEnd => .ok { c with ended := true, anchors := [] }
  | .alias name => match c.anchors.lookup name with
    | some number => .ok (c.attach number)
    | none => .error (.problem (.undefinedAlias name) (some e.place))
  | .scalar p text style =>
    let n : Node :=
      ⟨scalarTag oldVersion p text style, p.anchor, .scalar text (style == .folded), e.place⟩
    .ok ((c.add n).attach c.nodes.size)
  | .sequenceStart p =>
    c.openWith ⟨collectionTag .seq p.tag, p.anchor, .sequence [], e.place⟩
      (.sequence c.nodes.size [])
  | .mappingStart p =>
    c.openWith ⟨collectionTag .map p.tag, p.anchor, .mapping [], e.place⟩
      (.mapping c.nodes.size [] none)
  | .sequenceEnd => match c.stack with
    | .sequence n items :: rest =>
      .ok (({ c with stack := rest }.setContent n (.sequence items.reverse)).attach n)
    | _ => .ok c
  | .mappingEnd => match c.stack with
    | .mapping n pairs _ :: rest =>
      .ok (({ c with stack := rest }.setContent n (.mapping pairs.reverse)).attach n)
    | _ => .ok c

end Composition

/-- The nodes of a text's only document and the number of its root, if it has a document. -/
def compose (text : List Char) : Except Failure (Array Node × Option Nat) := do
  let (events, failure) := eventsOf text
  let c ← events.foldlM (fun c (e, version) => c.take e (version == some (1, 1))) Composition.start
  match failure with
  | some f => throw f
  | none => pure (c.nodes, c.root)

end VarsAdvisor.Yaml
