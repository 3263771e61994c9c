import VarsAdvisor.Json.Decode
import VarsAdvisor.Json.Encode
import VarsAdvisor.Text.Search

/-!
# Suggestions in a model's reply

A reply holds a JSON array of suggestions: in the first code fence if there is one, else from the
first opening to the last closing bracket. An item that is no text is shown as JSON.
-/

namespace VarsAdvisor.Suggestion

open VarsAdvisor.Text

/-- The mark of a code fence. -/
def fenceMark : List Char := ['`', '`', '`']

/-- What follows the last line feed among the blanks at the start of a text. -/
def afterBlankLines? (cs : List CodePoint) : Option (List CodePoint) :=
  let blanks := cs.takeWhile CodePoint.isBlank
  (cutAtLast (.char '\n') blanks).map fun (before, _) => cs.drop (before.length + 1)

/-- The name of the language at the start of a fence. -/
def fenceLanguage : List Char := ['j', 's', 'o', 'n']

/-- Without the name of the language at the start of a fence. -/
def dropLanguage (cs : List CodePoint) : List CodePoint :=
  if (pointsOf fenceLanguage).isPrefixOf cs then cs.drop fenceLanguage.length else cs

/-- The body of a fence whose opening mark has been read. -/
def fenceBody? (cs : List CodePoint) : Option (List CodePoint) := do
  let body ← afterBlankLines? (dropLanguage cs)
  let (inside, _) ← cutAt (pointsOf fenceMark) body
  pure inside

/-- The body of the first fence. -/
def firstFence? : List CodePoint → Option (List CodePoint)
  | [] => none
  | c :: r =>
    if (pointsOf fenceMark).isPrefixOf (c :: r) then
      match fenceBody? (r.drop 2) with
      | some body => some body
      | none => firstFence? r
    else firstFence? r

/-- From the first opening to the last closing bracket, if they stand in this order. -/
def bracketed? (cs : List CodePoint) : Option (List CodePoint) := do
  let (before, _) ← cutAt [.char '['] cs
  let (upTo, _) ← cutAtLast (.char ']') cs
  if before.length < upTo.length then
    pure ((cs.take (upTo.length + 1)).drop before.length)
  else none

/-- The part of a reply that is read as JSON. -/
def payload (cs : List CodePoint) : List CodePoint :=
  match firstFence? cs with
  | some body => trimPoints body
  | none => (bracketed? cs).getD (trimPoints cs)

/-- Why a reply gives no suggestions. -/
inductive ReplyError where
  | json (e : Json.DecodeError)
  | notArray (kind : String)
  deriving DecidableEq, Repr

/-- The wording. -/
def ReplyError.message : ReplyError → String
  | .json e => e.message
  | .notArray kind => s!"expected a JSON array, got {kind}"

/-- An item as a suggestion. -/
def ofItem : Json → WideText
  | .str s => s
  | v => v.text

/-- The suggestions in a reply. -/
def parseReply (content : WideText) : Except ReplyError (List WideText) :=
  match Json.decode ⟨payload content.points⟩ with
  | .error e => .error (.json e)
  | .ok (.arr items) => .ok (items.map ofItem)
  | .ok v => .error (.notArray v.kindName)

end VarsAdvisor.Suggestion
