import VarsAdvisor.Text.Blank
import VarsAdvisor.Text.Quoted

/-!
# Texts of code points

Where a text comes in escapes or in loosely checked bytes, half of a pair of UTF-16 units may stand
alone in it: a surrogate, which is no character. A `WideText` may hold surrogates, a `String` cannot.
Only a wide text that is a string can be written as UTF-8 (`WideText.string?`).
-/

namespace VarsAdvisor.Text

/-- A character, or a surrogate, known by its distance from the first one. -/
inductive CodePoint where
  | char (c : Char)
  | surrogate (distance : Fin 0x800)
  deriving DecidableEq, Repr, Inhabited

namespace CodePoint

/-- The number of a surrogate. -/
def surrogateCode (distance : Fin 0x800) : Nat :=
  0xD800 + distance

/-- The code point with a number below `0x110000`. -/
def ofNat (n : Nat) : CodePoint :=
  if 0xD800 ≤ n ∧ n < 0xE000 then .surrogate (Fin.ofNat 0x800 (n - 0xD800)) else .char (Char.ofNat n)

/-- The character that a code point is. -/
def char? : CodePoint → Option Char
  | .char c => some c
  | .surrogate _ => none

/-- What a code point looks like among characters. -/
def face : CodePoint → Char
  | .char c => c
  | .surrogate _ => '\uFFFD'

/-- White space; a surrogate is none. -/
def isBlank : CodePoint → Bool
  | .char c => Text.isBlank c
  | .surrogate _ => false

/-- A code point inside `mark`s. -/
def quote (mark : Char) : CodePoint → List Char
  | .char c => quoteChar mark c
  | .surrogate distance => '\\' :: 'u' :: hexDigits 4 (surrogateCode distance)

end CodePoint

/-- The code points of characters. -/
def pointsOf (cs : List Char) : List CodePoint :=
  cs.map .char

/-- Without leading and trailing blanks. -/
def trimPoints (points : List CodePoint) : List CodePoint :=
  dropTrailing CodePoint.isBlank (points.dropWhile CodePoint.isBlank)

/-- A text of code points. -/
structure WideText where
  points : List CodePoint
  deriving DecidableEq, Repr, Inhabited

namespace WideText

/-- A string as a wide text. -/
def ofString (s : String) : WideText :=
  ⟨pointsOf s.toList⟩

instance : Coe String WideText := ⟨ofString⟩

instance : Append WideText := ⟨fun a b => ⟨a.points ++ b.points⟩⟩

/-- What the text looks like among characters. -/
def faces (t : WideText) : List Char :=
  t.points.map CodePoint.face

/-- The text with a replacement character for each surrogate. -/
def shape (t : WideText) : String :=
  String.ofList t.faces

/-- The string that the text is, if there is no surrogate in it. -/
def string? (t : WideText) : Option String :=
  (t.points.mapM CodePoint.char?).map String.ofList

/-- There is no surrogate in the text. -/
def isString (t : WideText) : Bool :=
  t.string?.isSome

/-- The text as a message quotes it. -/
def quoted (t : WideText) : String :=
  let mark := quoteMark t.faces
  String.ofList (mark :: t.points.flatMap (CodePoint.quote mark) ++ [mark])

/-- The texts one after the other, with `sep` between two of them. -/
def joined (sep : WideText) : List WideText → WideText
  | [] => ""
  | [a] => a
  | a :: rest => a ++ sep ++ joined sep rest

end WideText

end VarsAdvisor.Text
