import VarsAdvisor.Text.Numeral
import VarsAdvisor.Text.Search

/-!
# Key paths

A key path leads from the top of a document to a value: each segment is a field name or a position
in a list. A segment written in an error line is a position exactly when it consists of ASCII
digits.
-/

namespace VarsAdvisor

open VarsAdvisor.Text

/-- What a segment of a key path selects by. -/
inductive SegmentKind where
  | key
  | index
  deriving DecidableEq, Repr

/-- One segment of a key path. -/
structure Segment where
  kind : SegmentKind
  value : String
  deriving DecidableEq, Repr

/-- The segments from the top of the document on. -/
abbrev KeyPath := List Segment

namespace Segment

/-- Why a segment has no list position. -/
inductive PositionError where
  | notIndex (value : String)
  | numeral (e : NumeralError)
  deriving DecidableEq, Repr

/-- The wording of a missing position. -/
def PositionError.message : PositionError → String
  | .notIndex value => s!"Segment '{value}' is not a list index"
  | .numeral e => e.message

/-- One or more ASCII digits. -/
def isDigits (cs : List Char) : Bool :=
  !cs.isEmpty && cs.all isAsciiDigit

/-- The segment that a text stands for. -/
def ofChars (cs : List Char) : Segment :=
  ⟨if isDigits cs then .index else .key, String.ofList cs⟩

/-- The segment that a string stands for. -/
def ofText (s : String) : Segment :=
  ofChars s.toList

/-- The segment selects by position. -/
def isIndex (s : Segment) : Bool :=
  s.kind == .index

/-- The list position that a segment selects. -/
def position (s : Segment) : Except PositionError Int :=
  match s.kind with
  | .key => .error (.notIndex s.value)
  | .index => (parseInt s.value).mapError .numeral

end Segment

/-- The segments with a point between two of them. -/
def KeyPath.dotted (p : KeyPath) : String :=
  joined "." (p.map (·.value))

end VarsAdvisor
