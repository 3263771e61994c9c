import VarsAdvisor.KeyPath.Basic
import VarsAdvisor.Text.Lower

/-!
# Error lines of the schema validator

A line reads `<key path>: <message>`, with the path's segments separated by points. A line without
a colon is a message about the whole document. A message that speaks of something missing is about
a field that does not exist, so its place is that of the field's container.
-/

namespace VarsAdvisor

open VarsAdvisor.Text

/-- An error line taken apart. -/
structure ErrorLine where
  raw : String
  path : KeyPath
  message : String
  missing : Bool
  deriving DecidableEq, Repr

namespace ErrorLine

/-- The message says that something is missing. -/
def saysMissing (message : List Char) : Bool :=
  occurs "missing".toList (lower message)

/-- The segments of a dotted path, without the blanks around them. -/
def segments (path : List Char) : KeyPath :=
  (splitOn '.' (trim path)).map fun piece => Segment.ofChars (trim piece)

/-- Takes a line apart at its first colon. -/
def parse (raw : String) : ErrorLine :=
  match cutAt [':'] raw.toList with
  | none => ⟨raw, [], trimmed raw, false⟩
  | some (path, message) =>
    ⟨raw, segments path, String.ofList (trim message), saysMissing (trim message)⟩

/-- Takes apart every line that is not blank. -/
def parseAll (raws : List String) : List ErrorLine :=
  (raws.filter fun raw => !isBlankText raw).map parse

/-- The error names no place inside the document. -/
def isDocumentLevel (e : ErrorLine) : Bool :=
  e.path.length ≤ 1

/-- The path to show the error at: that of the container if a field is missing. -/
def target (e : ErrorLine) : KeyPath :=
  if e.missing && decide (1 < e.path.length) then e.path.dropLast else e.path

/-- The dotted path. -/
def dottedPath (e : ErrorLine) : String :=
  KeyPath.dotted e.path

/-- The validator's own words for a raw error: its message, or the whole line if that is empty. -/
def validatorMessage (raw : String) : String :=
  let message := (parse raw).message
  if message = "" then trimmed raw else message

end ErrorLine

end VarsAdvisor
