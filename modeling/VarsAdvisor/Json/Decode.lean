import VarsAdvisor.Json.Basic
import VarsAdvisor.Decimal.Reading
import VarsAdvisor.Text.Numeral

/-!
# Reading JSON

`Json.decode` reads one value, with blanks around it, and names the first place where the text is
no JSON. The names `NaN`, `Infinity` and `-Infinity` are numbers. Arrays and objects may be nested
up to `maxNesting` levels. A place is counted from the end while reading, as the number of code
points left, and turned into a position at the end. A surrogate may stand in a string, as it is or
as an escape, and nowhere else.
-/

namespace VarsAdvisor.Json

open VarsAdvisor.Text VarsAdvisor.Decimal

/-- What is wrong at a place of a text. -/
inductive Fault where
  | expectingValue
  | expectingName
  | expectingColon
  | expectingComma
  | unterminatedString
  | controlCharacter
  | badEscape
  | badUnitEscape
  | extraData
  | leadingByteOrderMark
  deriving DecidableEq, Repr

/-- The words for a fault. -/
def Fault.message : Fault → String
  | .expectingValue => "Expecting value"
  | .expectingName => "Expecting property name enclosed in double quotes"
  | .expectingColon => "Expecting ':' delimiter"
  | .expectingComma => "Expecting ',' delimiter"
  | .unterminatedString => "Unterminated string starting at"
  | .controlCharacter => "Invalid control character at"
  | .badEscape => "Invalid \\escape"
  | .badUnitEscape => "Invalid \\uXXXX escape"
  | .extraData => "Extra data"
  | .leadingByteOrderMark => "Unexpected UTF-8 BOM (decode using utf-8-sig)"

/-- Why a text is not read: a fault at a place, a numeral that is too long, or an array or object
nested too deeply. -/
inductive Refusal where
  | fault (f : Fault) (left : Nat)
  | numeral (e : NumeralError)
  | nesting (object : Bool)
  deriving DecidableEq, Repr

/-- The number of levels to which arrays and objects may be nested. -/
def maxNesting : Nat := 990

/-- A blank between the tokens. -/
def isSpace : CodePoint → Bool
  | .char c => c == ' ' || c == '\t' || c == '\n' || c == '\r'
  | .surrogate _ => false

/-- Without leading blanks. -/
def skipSpace (cs : List CodePoint) : List CodePoint :=
  cs.dropWhile isSpace

/-- The value of a hexadecimal digit. -/
def hexValue? (c : Char) : Option Nat :=
  let n := c.toNat
  if 48 ≤ n ∧ n ≤ 57 then some (n - 48)
  else if 97 ≤ n ∧ n ≤ 102 then some (n - 87)
  else if 65 ≤ n ∧ n ≤ 70 then some (n - 55)
  else none

/-- The UTF-16 unit that four hexadecimal digits give; at least one code point has to follow. -/
def readUnit? : List CodePoint → Option (Nat × List CodePoint)
  | .char a :: .char b :: .char c :: .char d :: e :: r => do
    let a ← hexValue? a
    let b ← hexValue? b
    let c ← hexValue? c
    let d ← hexValue? d
    pure (((a * 16 + b) * 16 + c) * 16 + d, e :: r)
  | _ => none

/-- The character that a one-letter escape stands for. -/
def simpleEscape? : Char → Option Char
  | '"' => some '"'
  | '\\' => some '\\'
  | '/' => some '/'
  | 'b' => some (Char.ofNat 8)
  | 'f' => some (Char.ofNat 12)
  | 'n' => some '\n'
  | 'r' => some '\r'
  | 't' => some '\t'
  | _ => none

/-- A first unit of a pair. -/
def isHighUnit (n : Nat) : Bool := 0xD800 ≤ n && n < 0xDC00

/-- A second unit of a pair. -/
def isLowUnit (n : Nat) : Bool := 0xDC00 ≤ n && n < 0xE000

/-- The character of a pair of units. -/
def pairChar (high low : Nat) : Char :=
  Char.ofNat (0x10000 + (high - 0xD800) * 0x400 + (low - 0xDC00))

/-- The code point of a unit escape, whose digits start the text. A first unit takes an escape of a
second unit that follows it along. -/
def readUnitEscape (cs : List CodePoint) : Except Refusal (CodePoint × List CodePoint) :=
  match readUnit? cs with
  | none => .error (.fault .badUnitEscape (cs.length + 1))
  | some (unit, .char '\\' :: .char 'u' :: r) =>
    if isHighUnit unit && decide (5 ≤ r.length) then
      match readUnit? r with
      | none => .error (.fault .badUnitEscape (r.length + 1))
      | some (second, rest) =>
        if isLowUnit second then .ok (.char (pairChar unit second), rest)
        else .ok (.ofNat unit, .char '\\' :: .char 'u' :: r)
    else .ok (.ofNat unit, .char '\\' :: .char 'u' :: r)
  | some (unit, rest) => .ok (.ofNat unit, rest)

/-- The rest of a string whose opening mark had `start` code points from itself to the end. -/
def readStringBody (start : Nat) :
    Nat → List CodePoint → List CodePoint → Except Refusal (List CodePoint × List CodePoint)
  | 0, _, _ => .error (.fault .unterminatedString start)
  | _ + 1, _, [] => .error (.fault .unterminatedString start)
  | _ + 1, acc, .char '"' :: r => .ok (acc.reverse, r)
  | _ + 1, _, [.char '\\'] => .error (.fault .unterminatedString start)
  | fuel + 1, acc, .char '\\' :: .char 'u' :: r => do
    let (c, rest) ← readUnitEscape r
    readStringBody start fuel (c :: acc) rest
  | fuel + 1, acc, .char '\\' :: e :: r =>
    match e.char?.bind simpleEscape? with
    | some c => readStringBody start fuel (.char c :: acc) r
    | none => .error (.fault .badEscape (r.length + 2))
  | fuel + 1, acc, .char c :: r =>
    if c.toNat < 32 then .error (.fault .controlCharacter (r.length + 1))
    else readStringBody start fuel (.char c :: acc) r
  | fuel + 1, acc, .surrogate distance :: r =>
    readStringBody start fuel (.surrogate distance :: acc) r

/-- A string whose opening mark has just been read. -/
def readString (cs : List CodePoint) : Except Refusal (WideText × List CodePoint) := do
  let (points, rest) ← readStringBody (cs.length + 1) (cs.length + 1) [] cs
  pure (⟨points⟩, rest)

/-- The digits of a whole number: a zero alone, or digits that start with none. -/
def spanWhole : List Char → List Char × List Char
  | '0' :: r => (['0'], r)
  | cs => (cs.takeWhile isAsciiDigit, cs.dropWhile isAsciiDigit)

/-- A point with digits after it. -/
def spanFraction : List Char → List Nat × List Char
  | '.' :: r => match spanAscii r with
    | ([], _) => ([], '.' :: r)
    | (ds, rest) => (ds, rest)
  | cs => ([], cs)

/-- A number without its sign; `left` is the number of code points from its start. -/
def readMagnitude (left : Nat) (negative : Bool) (cs : List Char) :
    Except Refusal (Json × List Char) :=
  let (whole, afterWhole) := spanWhole cs
  if whole.isEmpty then .error (.fault .expectingValue left)
  else
    let (fraction, afterFraction) := spanFraction afterWhole
    let (exponent, rest) := spanExponent afterFraction
    if rest.length = afterWhole.length then
      match parseDigits whole with
      | .error e => .error (.numeral e)
      | .ok n => .ok (.int (if negative then -(Int.ofNat n) else Int.ofNat n), rest)
    else
      .ok (.real (Literal.toBinary64 negative ⟨whole.map (·.toNat - 48), fraction, exponent⟩), rest)

/-- The characters up to the first surrogate, and what follows them. -/
def spanChars : List CodePoint → List Char × List CodePoint
  | .char c :: r => (c :: (spanChars r).1, (spanChars r).2)
  | cs => ([], cs)

/-- A value that is neither a string, an array nor an object, among characters; `left` is the number
of code points from its start. -/
def readPlain (left : Nat) (cs : List Char) : Except Refusal (Json × List Char) :=
  match cs with
  | 'n' :: 'u' :: 'l' :: 'l' :: r => .ok (.null, r)
  | 't' :: 'r' :: 'u' :: 'e' :: r => .ok (.bool true, r)
  | 'f' :: 'a' :: 'l' :: 's' :: 'e' :: r => .ok (.bool false, r)
  | 'N' :: 'a' :: 'N' :: r => .ok (.real .nan, r)
  | 'I' :: 'n' :: 'f' :: 'i' :: 'n' :: 'i' :: 't' :: 'y' :: r => .ok (.real (.infinite false), r)
  | '-' :: 'I' :: 'n' :: 'f' :: 'i' :: 'n' :: 'i' :: 't' :: 'y' :: r =>
    .ok (.real (.infinite true), r)
  | '-' :: r => readMagnitude left true r
  | _ => readMagnitude left false cs

/-- A value that is neither a string, an array nor an object. -/
def readScalar (cs : List CodePoint) : Except Refusal (Json × List CodePoint) :=
  let (plain, more) := spanChars cs
  (readPlain cs.length plain).map fun (v, rest) => (v, pointsOf rest ++ more)

/-- The items of an array from the first item on, each read by `value`. -/
def readItems (value : List CodePoint → Except Refusal (Json × List CodePoint)) :
    Nat → List Json → List CodePoint → Except Refusal (List Json × List CodePoint)
  | 0, _, cs => .error (.fault .expectingValue cs.length)
  | fuel + 1, acc, cs => do
    let (v, afterValue) ← value cs
    match skipSpace afterValue with
    | .char ']' :: r => pure ((v :: acc).reverse, r)
    | .char ',' :: r => readItems value fuel (v :: acc) (skipSpace r)
    | r => throw (.fault .expectingComma r.length)

/-- The members of an object from the first name on, each value read by `value`. -/
def readMembers (value : List CodePoint → Except Refusal (Json × List CodePoint)) :
    Nat → List (WideText × Json) → List CodePoint →
      Except Refusal (List (WideText × Json) × List CodePoint)
  | 0, _, cs => .error (.fault .expectingName cs.length)
  | fuel + 1, acc, .char '"' :: cs => do
    let (name, afterName) ← readString cs
    match skipSpace afterName with
    | .char ':' :: r => do
      let (v, afterValue) ← value (skipSpace r)
      match skipSpace afterValue with
      | .char '\x7d' :: r => pure (membersOf ((name, v) :: acc).reverse, r)
      | .char ',' :: r => readMembers value fuel ((name, v) :: acc) (skipSpace r)
      | r => throw (.fault .expectingComma r.length)
    | r => throw (.fault .expectingColon r.length)
  | _ + 1, _, cs => .error (.fault .expectingName cs.length)

/-- A value within which arrays and objects may be nested to the given number of levels. -/
def readValue : Nat → List CodePoint → Except Refusal (Json × List CodePoint)
  | _, .char '"' :: r => do
    let (s, rest) ← readString r
    pure (.str s, rest)
  | 0, .char '[' :: _ => .error (.nesting false)
  | 0, .char '\x7b' :: _ => .error (.nesting true)
  | levels + 1, .char '[' :: r =>
    match skipSpace r with
    | .char ']' :: rest => .ok (.arr [], rest)
    | body => do
      let (items, rest) ← readItems (readValue levels) (body.length + 1) [] body
      pure (.arr items, rest)
  | levels + 1, .char '\x7b' :: r =>
    match skipSpace r with
    | .char '\x7d' :: rest => .ok (.obj [], rest)
    | body => do
      let (members, rest) ← readMembers (readValue levels) (body.length + 1) [] body
      pure (.obj members, rest)
  | _, cs => readScalar cs

/-- Reads code points that hold one value and nothing else. -/
def decodePoints (cs : List CodePoint) : Except Refusal Json :=
  match readValue maxNesting (skipSpace cs) with
  | .error e => .error e
  | .ok (v, rest) =>
    match skipSpace rest with
    | [] => .ok v
    | r => .error (.fault .extraData r.length)

/-- A place in a text: its line and column, from one, and its offset. -/
structure Place where
  line : Nat
  column : Nat
  offset : Nat
  deriving DecidableEq, Repr

/-- The place behind the first `offset` code points. -/
def placeAt (cs : List CodePoint) (offset : Nat) : Place :=
  let before := cs.take offset
  ⟨before.count (.char '\n') + 1, (before.reverse.takeWhile (· != .char '\n')).length + 1, offset⟩

/-- Why a text is no JSON, with the place. -/
inductive DecodeError where
  | syntaxFault (f : Fault) (place : Place)
  | numeral (e : NumeralError)
  | nesting (object : Bool)
  deriving DecidableEq, Repr

/-- A refusal with its place in the text. -/
def Refusal.within (cs : List CodePoint) : Refusal → DecodeError
  | .fault f left => .syntaxFault f (placeAt cs (cs.length - left))
  | .numeral e => .numeral e
  | .nesting object => .nesting object

/-- The message about a text that is no JSON. -/
def DecodeError.message : DecodeError → String
  | .syntaxFault f p => s!"{f.message}: line {p.line} column {p.column} (char {p.offset})"
  | .numeral e => e.message
  | .nesting object =>
    let kind := if object then "object" else "array"
    s!"maximum recursion depth exceeded while decoding a JSON {kind} from a unicode string"

/-- The value that code points hold. -/
def decodeAll (cs : List CodePoint) : Except DecodeError Json :=
  (decodePoints cs).mapError (Refusal.within cs)

/-- The value that a text holds. The text may not start with a byte-order mark. -/
def decode (s : WideText) : Except DecodeError Json :=
  match s.points with
  | .char '\uFEFF' :: rest =>
    .error (.syntaxFault .leadingByteOrderMark (placeAt (.char '\uFEFF' :: rest) 0))
  | cs => decodeAll cs

end VarsAdvisor.Json
