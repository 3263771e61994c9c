import VarsAdvisor.Yaml.Problem
import VarsAdvisor.Yaml.Scalar.Atom

/-!
# Values of nodes

A value is an atom, or the collection that belongs to a node. What a collection holds is kept by the
number of its node, because it can be met before it is complete, and inside itself. A collection is
a key through what it holds at that time; it must not hold collections then.
-/

namespace VarsAdvisor.Yaml

/-- The kinds of collections. -/
inductive CollectionKind where
  | sequence
  | mapping
  | ordered
  | set
  | pairs
  deriving DecidableEq, Repr

/-- The name of the type of a collection. -/
def CollectionKind.typeName : CollectionKind → String
  | .sequence => "CommentedSeq"
  | .mapping => "CommentedMap"
  | .ordered => "CommentedOrderedMap"
  | .set => "CommentedSet"
  | .pairs => "list"

/-- A value: an atom, or the collection that belongs to the node with a number. -/
inductive Value where
  | atom (a : Atom)
  | collection (kind : CollectionKind) (number : Nat)
  deriving DecidableEq, Repr

/-- Null. -/
def Value.null : Value := .atom .null

/-- A key: an atom, or what a sequence or a mapping held when it became a key. -/
inductive Key where
  | atom (a : Atom)
  | items (atoms : List Atom)
  | entries (pairs : List (Key × Atom))
  deriving BEq, Repr

/-- What a collection holds: the values of a sequence, of a list of pairs one after the other, or of
the entries of a mapping together with their keys. -/
structure Holding where
  items : List Value
  entries : List (Key × Value)
  deriving Inhabited

/-- Nothing. -/
def Holding.empty : Holding := ⟨[], []⟩

/-- A mapping has an entry for the key. -/
def Holding.hasKey (h : Holding) (key : Key) : Bool :=
  h.entries.any fun (k, _) => k == key

/-- With an entry more, unless there is one for its key. -/
def Holding.insert (h : Holding) (key : Key) (value : Value) : Holding :=
  if h.hasKey key then h else { h with entries := h.entries ++ [(key, value)] }

/-- What is to become a key. -/
inductive KeyParts where
  | atom (a : Atom)
  | items (values : List Value)
  | entries (pairs : List (Key × Value))

/-- The atom that a part of a key has to be. -/
def Value.part : Value → Except Mishap Atom
  | .atom a => .ok a
  | .collection kind _ => .error (.unhashable kind.typeName)

/-- The key, or the first of its parts that is a collection. -/
def KeyParts.key : KeyParts → Except Mishap Key
  | .atom a => .ok (.atom a)
  | .items values => .items <$> values.mapM Value.part
  | .entries pairs => .entries <$> pairs.mapM fun (k, v) => do pure (k, ← v.part)

end VarsAdvisor.Yaml
