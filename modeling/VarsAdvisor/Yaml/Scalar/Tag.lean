/-!
# Types of nodes

A tag names the type of a node. The tags of YAML's own types are known; any other tag leaves a
node as it is.
-/

namespace VarsAdvisor.Yaml

/-- YAML's own types. -/
inductive CoreType where
  | null
  | bool
  | int
  | float
  | binary
  | timestamp
  | omap
  | pairs
  | set
  | str
  | seq
  | map
  deriving DecidableEq, Repr

/-- The type of a node: one of YAML's own, a merge key, or the URI of another. -/
inductive Tag where
  | core (t : CoreType)
  | merge
  | other (uri : String)
  deriving DecidableEq, Repr

/-- The URI that YAML's own types start with. -/
def coreBase : String := "tag:yaml.org,2002:"

/-- The names of YAML's own types. -/
def coreTypes : List (String × CoreType) :=
  [("null", .null), ("bool", .bool), ("int", .int), ("float", .float), ("binary", .binary),
    ("timestamp", .timestamp), ("omap", .omap), ("pairs", .pairs), ("set", .set), ("str", .str),
    ("seq", .seq), ("map", .map)]

/-- The URI of a type. -/
def Tag.uri : Tag → String
  | .core t => coreBase ++ ((coreTypes.find? fun (_, u) => u = t).map (·.1)).getD ""
  | .merge => coreBase ++ "merge"
  | .other uri => uri

/-- The type that a URI names. -/
def Tag.ofUri (uri : String) : Tag :=
  if uri = coreBase ++ "merge" then .merge
  else match coreTypes.find? (fun (name, _) => uri = coreBase ++ name) with
    | some (_, t) => .core t
    | none => .other uri

end VarsAdvisor.Yaml
