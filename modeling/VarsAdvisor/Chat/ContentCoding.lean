import VarsAdvisor.Compression.Container
import VarsAdvisor.Text.Blank
import VarsAdvisor.Text.Lower
import VarsAdvisor.Text.Search

/-!
# Content codings

The body of a reply may be compressed, also more than once: its codings are named in the order in
which they were applied. A coding that is not known leaves the body as it is.
-/

namespace VarsAdvisor

open VarsAdvisor.Text

/-- How a body is compressed. -/
inductive ContentCoding where
  | gzip
  | deflate
  deriving DecidableEq, Repr

namespace ContentCoding

/-- The coding of a name. -/
def ofName? (name : String) : Option ContentCoding :=
  match name with
  | "gzip" => some .gzip
  | "deflate" => some .deflate
  | _ => none

/-- The known codings among names between commas. -/
def listed (names : String) : List ContentCoding :=
  (splitOn ',' names.toList).filterMap fun name =>
    ofName? (String.ofList (lower (trim name)))

/-- The body before it was compressed. -/
def undo (bs : List UInt8) : ContentCoding → Except Compression.Flaw (List UInt8)
  | .gzip => Compression.gunzip bs
  | .deflate => Compression.unzip bs

/-- The body before any of the codings was applied; an empty body has none. -/
def undoAll (codings : List ContentCoding) (bs : List UInt8) :
    Except Compression.Flaw (List UInt8) :=
  if bs.isEmpty then .ok bs else codings.reverse.foldlM undo bs

end ContentCoding

end VarsAdvisor
