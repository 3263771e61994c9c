import VarsAdvisor.Decimal.Layout
import VarsAdvisor.Json.Basic
import VarsAdvisor.Text.Search

/-!
# Values in messages

How messages show a value: the truth values are `True` and `False`, null is `None`, texts inside
other values stand between quotes, and a text alone stands as it is.
-/

namespace VarsAdvisor.Json

open VarsAdvisor.Text

mutual

/-- A value inside another. -/
def displayInner : Json → String
  | .null => "None"
  | .bool true => "True"
  | .bool false => "False"
  | .int n => toString n
  | .real x => x.text
  | .str s => s.quoted
  | .arr items => "[" ++ joined ", " (displayItems items) ++ "]"
  | .obj members => "\x7b" ++ joined ", " (displayMembers members) ++ "\x7d"

/-- The items of an array. -/
def displayItems : List Json → List String
  | [] => []
  | v :: rest => displayInner v :: displayItems rest

/-- The members of an object. -/
def displayMembers : List (WideText × Json) → List String
  | [] => []
  | (name, v) :: rest => (name.quoted ++ ": " ++ displayInner v) :: displayMembers rest

end

/-- A value alone. -/
def display : Json → WideText
  | .str s => s
  | v => displayInner v

/-- Texts as an array. -/
def displayTexts (texts : List WideText) : String :=
  displayInner (.arr (texts.map .str))

end VarsAdvisor.Json
