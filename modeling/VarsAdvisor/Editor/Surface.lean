import VarsAdvisor.Table
import VarsAdvisor.Document.Basic
import VarsAdvisor.Text.WideText

/-!
# Editing surfaces

A surface shows the lines of an open document, with markers at the ends of lines. Whoever makes a
marker gets a handle to it, with which the marker can be disposed of. On a broken line no marker is
kept, and disposing of its handle fails.
-/

namespace VarsAdvisor

open VarsAdvisor.Text

/-- A marker: what is shown where, and the text that hovering over it shows. -/
structure Marker where
  line : Int
  column : Int
  text : WideText
  hover : WideText
  deriving DecidableEq, Repr

/-- A surface with its lines and its markers, which are known by numbers. -/
structure Surface where
  lines : List String
  brokenLines : List Int
  markers : Table Nat Marker
  deriving Repr

namespace Surface

/-- A surface without markers that shows a text. -/
def ofLines (lines : List String) : Surface :=
  ⟨lines, [], []⟩

/-- The number of lines. -/
def lineCount (s : Surface) : Nat :=
  s.lines.length

/-- The line is one of the surface, counted from one. -/
def hasLine (s : Surface) (line : Int) : Bool :=
  decide (1 ≤ line) && decide (line ≤ s.lineCount)

/-- The number of characters in a line. -/
def lineLength (s : Surface) (line : Int) : Nat :=
  (s.lines.getD (line.toNat - 1) "").length

/-- The document that the surface shows. -/
def document (s : Surface) : Document :=
  ⟨s.lines⟩

/-- The markers by line, those of one line in the order in which they were made. -/
def shown (s : Surface) : List Marker :=
  (s.markers.map (·.2)).mergeSort fun a b => a.line ≤ b.line

end Surface

/-- What identifies a surface. -/
abbrev SurfaceId := Nat

/-- What identifies an overlay. -/
abbrev OverlayId := Nat

/-- A handle to a marker of a surface. -/
structure Handle where
  surface : SurfaceId
  number : Nat
  broken : Bool
  deriving DecidableEq, Repr

end VarsAdvisor
