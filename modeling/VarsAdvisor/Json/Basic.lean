import VarsAdvisor.Decimal.Binary
import VarsAdvisor.Text.WideText

/-!
# JSON values

`Json` keeps whole numbers apart from numbers with a fraction or an exponent, and the members of an
object in the order of their first appearance, each name once. Strings and names may hold
surrogates.
-/

namespace VarsAdvisor

open VarsAdvisor.Decimal (Binary64)
open VarsAdvisor.Text (WideText)

/-- A JSON value. -/
inductive Json where
  | null
  | bool (b : Bool)
  | int (n : Int)
  | real (x : Binary64)
  | str (s : WideText)
  | arr (items : List Json)
  | obj (members : List (WideText × Json))
  deriving Repr, Inhabited

namespace Json

/-- The members with `name` set to `value`: in its place if the name is there, else at the end. -/
def setMember (name : WideText) (value : Json) :
    List (WideText × Json) → List (WideText × Json)
  | [] => [(name, value)]
  | (n, v) :: rest => if n = name then (n, value) :: rest else (n, v) :: setMember name value rest

/-- The members of an object whose text lists these pairs: a name that is repeated keeps its first
place and its last value. -/
def membersOf (pairs : List (WideText × Json)) : List (WideText × Json) :=
  pairs.foldl (fun members (name, value) => setMember name value members) []

/-- The member of a name among the members of an object. -/
def member? (members : List (WideText × Json)) (name : String) : Option Json :=
  members.lookup (name : WideText)

/-- The member of an object. -/
def get? (name : String) : Json → Option Json
  | .obj members => member? members name
  | _ => none

/-- A text. -/
def ofString (s : String) : Json :=
  .str s

/-- An array of texts. -/
def ofTexts (texts : List String) : Json :=
  .arr (texts.map ofString)

/-- Neither null, false, zero nor empty. -/
def isTruthy : Json → Bool
  | .null => false
  | .bool b => b
  | .int n => n != 0
  | .real x => !x.isZero
  | .str s => s != ("" : WideText)
  | .arr items => !items.isEmpty
  | .obj members => !members.isEmpty

/-- The name of a value's kind, as messages give it. -/
def kindName : Json → String
  | .null => "NoneType"
  | .bool _ => "bool"
  | .int _ => "int"
  | .real _ => "float"
  | .str _ => "str"
  | .arr _ => "list"
  | .obj _ => "dict"

end Json

end VarsAdvisor
