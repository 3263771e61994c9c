import VarsAdvisor.Text.LineBreak
import VarsAdvisor.Text.Search
import VarsAdvisor.Text.Utf8

/-!
# Documents

A document is the list of its lines, counted from one. `numbered` shows each line behind its
number, the form in which a chat model sees a document.
-/

namespace VarsAdvisor

open VarsAdvisor.Text

/-- The lines of a text. -/
structure Document where
  lines : List String
  deriving DecidableEq, Repr

/-- The item at a position; a negative position counts from the end. -/
def itemAt? {α : Type} (xs : List α) (position : Int) : Option α :=
  if 0 ≤ position then xs[position.toNat]?
  else if -(xs.length : Int) ≤ position then xs[(xs.length + position).toNat]?
  else none

namespace Document

/-- The document with a given text. -/
def ofText (text : String) : Document :=
  ⟨Text.lines text⟩

/-- The document that a file holds, its line breaks unified first. -/
def ofBytes (bytes : List UInt8) : Except Utf8.Malformed Document :=
  (Utf8.decode bytes).map fun cs => ofText (String.ofList (unifyBreaks cs))

/-- The number of lines. -/
def lineCount (d : Document) : Nat :=
  d.lines.length

/-- The line with a number; zero and negative numbers count back from the last line. -/
def line? (d : Document) (number : Int) : Option String :=
  itemAt? d.lines (number - 1)

/-- The lines from a number on. -/
def linesFrom (d : Document) (number : Nat) : List String :=
  d.lines.drop (number - 1)

/-- A line behind its number. -/
def numberedLine (line : String) (number : Nat) : String :=
  s!"{number}: {line}"

/-- Every line behind its number. -/
def numbered (d : Document) : String :=
  joined "\n" ((d.lines.zipIdx 1).map fun (line, number) => numberedLine line number)

/-- The lines with a line feed between two of them. -/
def joinedText (d : Document) : String :=
  joined "\n" d.lines

end Document

end VarsAdvisor
