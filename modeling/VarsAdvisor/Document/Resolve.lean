import VarsAdvisor.Document.Basic
import VarsAdvisor.KeyPath.ErrorLine

/-!
# From key paths to lines

A path is followed through the text of a document rather than through its parsed form, so that it
can be followed while the text is half-edited. Each segment is looked for at or after the line that
the one before it matched: a field name as part of a line, a position by counting the list items of
the first indentation met. A segment without a match leaves the cursor where it is.
-/

namespace VarsAdvisor

open VarsAdvisor.Text

namespace Document

/-- The first line that shows a field name, the lines counted from `number`. -/
def findKey (key : List Char) (number : Nat) : List String → Option Nat
  | [] => none
  | line :: rest =>
    if occurs key (trim line.toList) then some number else findKey key (number + 1) rest

/-- The blanks at the start of a line. -/
def indentation (line : List Char) : List Char :=
  line.takeWhile isBlank

/-- The line's text starts with the mark of a list item. -/
def isItem (line : List Char) : Bool :=
  (trim line).head? == some '-'

/-- The line is a list item behind exactly this indentation. -/
def isItemAt (indent line : List Char) : Bool :=
  (indent ++ ['-']).isPrefixOf line

/-- The list item after `count` earlier ones with the given position, the lines counted from
`number`; without an indentation yet, the first item sets it. -/
def findItem (position : Int) (indent : Option (List Char)) (count : Int) (number : Nat) :
    List String → Option Nat
  | [] => none
  | line :: rest =>
    let cs := line.toList
    if isItem cs then
      let indent := indent.getD (indentation cs)
      if isItemAt indent cs then
        if count = position then some number
        else findItem position (some indent) (count + 1) (number + 1) rest
      else findItem position (some indent) count (number + 1) rest
    else findItem position indent count (number + 1) rest

/-- The line that a segment matches at or after the cursor. -/
def find? (d : Document) (segment : Segment) (cursor : Nat) :
    Except Segment.PositionError (Option Nat) :=
  match segment.kind with
  | .key => .ok (findKey segment.value.toList cursor (d.linesFrom cursor))
  | .index => do
    let position ← segment.position
    pure (findItem position none 0 cursor (d.linesFrom cursor))

/-- The cursor after one segment. -/
def advance (d : Document) (cursor : Nat) (segment : Segment) :
    Except Segment.PositionError Nat := do
  let found ← d.find? segment cursor
  pure (found.getD cursor)

/-- The line that following a whole path leads to. -/
def follow (d : Document) (path : KeyPath) : Except Segment.PositionError Nat := do
  let cursor ← path.foldlM d.advance 1
  pure (min cursor (max 1 d.lineCount))

/-- The line of a path; a path of at most one segment is about the whole document. -/
def resolve (d : Document) (path : KeyPath) : Except Segment.PositionError Nat :=
  if path.length ≤ 1 then .ok 1 else d.follow path

/-- The line of an error. Whether it is about the whole document is decided on the path as it was
reported, so a missing field of the top level is still looked for by its container's name. -/
def resolveError (d : Document) (e : ErrorLine) : Except Segment.PositionError Nat :=
  if e.isDocumentLevel then .ok 1 else d.follow e.target

/-- The line of each raw error. -/
def resolveErrors (d : Document) (raws : List String) : Except Segment.PositionError (List Nat) :=
  raws.mapM fun raw => d.resolveError (ErrorLine.parse raw)

end Document

end VarsAdvisor
