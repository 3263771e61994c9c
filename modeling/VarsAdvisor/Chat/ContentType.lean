import VarsAdvisor.Chat.Url
import VarsAdvisor.Text.Blank
import VarsAdvisor.Charset.Basic
import VarsAdvisor.Text.Search

/-!
# Content types

A content type is a media type with parameters behind semicolons, one of which may name the charset
of a text. A semicolon between quotation marks is part of a parameter. A parameter may come in
pieces, behind stars in the name: `name*0`, `name*1`; a star at the end of the name marks a piece
that is percent-encoded, and then the whole starts with the charset and the language it is in.
-/

namespace VarsAdvisor.ContentType

open VarsAdvisor.Text

/-! ## Parts -/

/-- The parts between semicolons. `isOpen` tells whether a quotation mark is open, and `before` is
the last character; a mark behind a backslash neither opens nor closes. -/
def parts (isOpen : Bool) (before : Char) : List Char → List (List Char)
  | [] => [[]]
  | c :: r =>
    if c = ';' && !isOpen then [] :: parts false c r
    else
      let isMark := c == '"' && before != '\\'
      match parts (isOpen != isMark) c r with
      | p :: ps => (c :: p) :: ps
      | [] => [[c]]

/-- With one backslash for two. -/
def halved : List Char → List Char
  | '\\' :: '\\' :: r => '\\' :: halved r
  | c :: r => c :: halved r
  | [] => []

/-- Without the backslashes before quotation marks. -/
def bareMarks : List Char → List Char
  | '\\' :: '"' :: r => '"' :: bareMarks r
  | c :: r => c :: bareMarks r
  | [] => []

/-- Without the quotation marks or angle brackets around it. -/
def unwrapped (cs : List Char) : List Char :=
  if 1 < cs.length then
    if cs.head? = some '"' ∧ cs.getLast? = some '"' then
      bareMarks (halved (cs.drop 1).dropLast)
    else if cs.head? = some '<' ∧ cs.getLast? = some '>' then (cs.drop 1).dropLast
    else cs
  else cs

/-- The name of a part in lower case, and its value, which is empty if there is none. -/
def nameAndValue (cs : List Char) : List Char × List Char :=
  let (name, value) := cs.span (· != '=')
  (lower (trim name), unwrapped (trim (value.drop 1)))

/-! ## Pieces -/

/-- A piece of a parameter: its number, if it has one, its text, and whether that is
percent-encoded. -/
structure Piece where
  number : Option Nat
  text : List Char
  isEncoded : Bool
  deriving DecidableEq, Repr

/-- A letter or digit of ASCII, or the underscore. -/
def isNameChar (c : Char) : Bool :=
  c.isAlphanum || c == '_'

/-- The number that digits of ASCII write. -/
def numberOf (digits : List Char) : Nat :=
  digits.foldl (fun n d => n * 10 + (d.toNat - 48)) 0

/-- The name of the parameter of which a part is a piece, and the piece. -/
def piece? (name value : List Char) : Option (List Char × Piece) :=
  let (whole, rest) := name.span isNameChar
  if whole.isEmpty then none
  else match rest with
    | ['*'] => some (whole, ⟨none, value, true⟩)
    | '*' :: number =>
      let (digits, behind) := number.span Char.isDigit
      if digits.isEmpty then none
      else if behind = [] then some (whole, ⟨some (numberOf digits), value, false⟩)
      else if behind = ['*'] then some (whole, ⟨some (numberOf digits), value, true⟩)
      else none
    | _ => none

/-- Pieces with numbers and pieces without cannot be put in order; `numberFirst` tells what the
first is. -/
structure MixedPieces where
  numberFirst : Bool
  deriving DecidableEq, Repr

/-- The wording. -/
def MixedPieces.message (m : MixedPieces) : String :=
  if m.numberFirst then "'<' not supported between instances of 'NoneType' and 'int'"
  else "'<' not supported between instances of 'int' and 'NoneType'"

/-- The order of pieces: by number, by text, and encoded ones last. -/
def Piece.le (a b : Piece) : Bool :=
  let x := a.number.getD 0
  let y := b.number.getD 0
  if x ≠ y then x < y
  else if a.text ≠ b.text then decide (a.text < b.text)
  else !a.isEncoded || b.isEncoded

/-- The pieces in their order. -/
def inOrder (pieces : List Piece) : Except MixedPieces (List Piece) :=
  match pieces with
  | [] => .ok []
  | first :: _ =>
    if pieces.all fun p => p.number.isSome == first.number.isSome then .ok (pieces.mergeSort Piece.le)
    else .error ⟨first.number.isSome⟩

/-- The text of a piece, with a character for each encoded byte. -/
def Piece.plain (p : Piece) : List Char :=
  if p.isEncoded then (Url.decodeBytes p.text).map fun b => Char.ofNat b.toNat else p.text

/-! ## Values -/

/-- The value of a parameter: a text as it is, or one that is written in a charset. -/
inductive Value where
  | plain (text : List Char)
  | written (charset : List Char) (text : List Char)
  deriving DecidableEq, Repr

/-- The value that pieces make up. If one of them is encoded, it starts with the name of a charset
and a language, each with an apostrophe behind it; without these it is in ASCII. -/
def valueOf (pieces : List Piece) : Value :=
  let whole := pieces.flatMap Piece.plain
  if pieces.any Piece.isEncoded then
    match cutAt ['\''] whole with
    | none => .written [] whole
    | some (charset, rest) => match cutAt ['\''] rest with
      | none => .written [] whole
      | some (_, text) => .written charset text
  else .plain whole

/-- Puts a piece behind those of its parameter. -/
def addPiece (name : List Char) (p : Piece) :
    List (List Char × List Piece) → List (List Char × List Piece)
  | [] => [(name, [p])]
  | (n, ps) :: r => if n = name then (n, ps ++ [p]) :: r else (n, ps) :: addPiece name p r

/-- The parameters with their values: first the media type, then those that are whole, then those
in pieces. -/
def parameters (contentType : String) : Except MixedPieces (List (List Char × Value)) := do
  match (parts false ' ' contentType.toList).map nameAndValue with
  | [] => pure []
  | (mediaType, value) :: rest =>
    let whole := rest.filter fun (name, value) => (piece? name value).isNone
    let pieces := rest.filterMap fun (name, value) => piece? name value
    let grouped := pieces.foldl (fun groups (name, p) => addPiece name p groups) []
    let joined ← grouped.mapM fun (name, ps) => (inOrder ps).map fun ps => (name, valueOf ps)
    pure ((mediaType, .plain value) :: whole.map (fun (name, value) => (name, .plain value)) ++ joined)

/-! ## Charsets -/

/-- The characters of bytes in a charset, with the least part of a unit first where there is no byte
order mark. -/
def read? (charset : Charset) (bs : List UInt8) : Option (List Char) :=
  match charset.decode bs with
  | .ok cs => some cs
  | .error (.unmarked 16) => some (Charset.decode16 false bs)
  | .error (.unmarked _) => some (Charset.decode32 false bs)
  | .error _ => none

/-- A text that is written in a charset, with a character for each byte. It stays as it is if the
charset is not known or the text is not in it. -/
def reread (charset text : List Char) : List Char :=
  let name := if charset.isEmpty then "ascii" else String.ofList charset
  match (Charset.ofName? name).bind fun c => read? c (text.map fun c => UInt8.ofNat c.toNat) with
  | some cs => if cs.contains replacement then text else cs
  | none => text

/-- The text of a value. -/
def Value.text : Value → List Char
  | .plain text => text
  | .written charset text => reread charset text

/-- The name of the charset, if there is one and it is in ASCII. -/
def charsetName? (contentType : String) : Except MixedPieces (Option String) := do
  match (← parameters contentType).lookup "charset".toList with
  | none => pure none
  | some value =>
    let name := value.text
    pure (if name.all fun c => c.toNat < 128 then some (String.ofList (lower name)) else none)

/-- The charset of a text; UTF-8 if it is not known. -/
def charset (contentType : Option String) : Except MixedPieces Charset :=
  match contentType with
  | none => .ok (.utf8 false)
  | some contentType => (charsetName? contentType).map fun name =>
      (name.bind Charset.ofName?).getD (.utf8 false)

end VarsAdvisor.ContentType
