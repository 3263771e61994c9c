import VarsAdvisor.Form.Complaint
import VarsAdvisor.Decimal.Reading
import VarsAdvisor.Path.Basic
import VarsAdvisor.Text.Numeral

/-!
# Reading forms

Each part of a form is read on its own, so that all complaints are reported together, in the order
of the fields. Numbers are read leniently: a whole number may be given as a text, as a truth value
or with an empty fraction. A surrogate in a text is no character, and where characters are wanted it
is replaced or complained about.
-/

namespace VarsAdvisor.Form

open VarsAdvisor.Text VarsAdvisor.Decimal

/-- What a part of a form holds, or the complaints about it. -/
inductive Checked (α : Type) where
  | good (value : α)
  | bad (complaints : List Complaint)

namespace Checked

/-- Applies a checked function to a checked value; the complaints about both are kept. -/
def app {α β : Type} : Checked (α → β) → Checked α → Checked β
  | .good f, .good a => .good (f a)
  | .good _, .bad es => .bad es
  | .bad es, .good _ => .bad es
  | .bad es, .bad more => .bad (es ++ more)

/-- Applies a function to a checked value. -/
def map {α β : Type} (f : α → β) : Checked α → Checked β
  | .good a => .good (f a)
  | .bad es => .bad es

/-- The complaints as those about a part of a larger form. -/
def within {α : Type} (step : Place) : Checked α → Checked α
  | .good a => .good a
  | .bad es => .bad (es.map (·.within step))

/-- The value or the complaints. -/
def toExcept {α : Type} : Checked α → Except (List Complaint) α
  | .good a => .ok a
  | .bad es => .error es

end Checked

/-- One complaint about a whole part. -/
def complain {α : Type} (cause : Cause) (input : Json) : Checked α :=
  .bad [⟨cause, [], input⟩]

/-- A text, which may hold surrogates. -/
def readWide (v : Json) : Checked WideText :=
  match v with
  | .str s => .good s
  | _ => complain .notString v

/-- A text among characters. -/
def readString (v : Json) : Checked String :=
  (readWide v).map WideText.shape

/-- A text without surrogates that is not empty. -/
def readNonempty (v : Json) : Checked String :=
  match v with
  | .str s => match s.string? with
    | some text => if text = "" then complain (.tooShort 1) v else .good text
    | none => complain .notUnicode v
  | _ => complain .notString v

/-- A path, given as a text. -/
def readPath (v : Json) : Checked Path :=
  match v with
  | .str s => .good (Path.ofText s.shape)
  | _ => complain .notPath v

/-- A value that may be null. -/
def readOptional {α : Type} (read : Json → Checked α) (v : Json) : Checked (Option α) :=
  match v with
  | .null => .good none
  | _ => (read v).map some

/-- One of a few texts. -/
def readChoice {α : Type} (choices : List (String × α)) (v : Json) : Checked α :=
  match v with
  | .str s => match choices.lookup s.shape with
    | some a => .good a
    | none => complain (.notOneOf (choices.map (·.1))) v
  | _ => complain (.notOneOf (choices.map (·.1))) v

/-- Underscores are single and stand inside the text. -/
def groupsWell (cs : List Char) : Bool :=
  cs.head? != some '_' && cs.getLast? != some '_' && !occurs ['_', '_'] cs

/-- Without a fraction of zeros. -/
def dropZeroFraction (cs : List Char) : List Char :=
  if (cs.dropWhile (· != '.')).drop 1 |>.all (· == '0') then cs.takeWhile (· != '.') else cs

/-- The whole number in a text, of ASCII digits with a sign and single underscores. -/
def readIntText? (cs : List Char) : Option Int :=
  let body := dropZeroFraction (trimPadding cs)
  if groupsWell body then
    let (negative, digits) := splitSign (body.filter (· != '_'))
    if !digits.isEmpty && digits.all isAsciiDigit then
      let n := digitsValue 0 (digits.map fun c => c.toNat - 48)
      some (if negative then -(Int.ofNat n) else Int.ofNat n)
    else none
  else none

/-- A whole number. -/
def readInt (v : Json) : Checked Int :=
  match v with
  | .int n => .good n
  | .bool b => .good (if b then 1 else 0)
  | .real x =>
    if !x.isFinite then complain .notFinite v
    else match x.toInt? with
      | none => complain .fractional v
      | some n => if n.natAbs < Nat.pow 2 63 then .good n else complain .oversized v
  | .str s => match s.string? with
    | some text => match readIntText? text.toList with
      | some n => if maxNumeralDigits < text.length then complain .oversized v else .good n
      | none => complain .badInteger v
    | none => complain .notUnicode v
  | _ => complain .notInteger v

/-- The number in a text, of ASCII digits with single underscores. -/
def readNumberText? (cs : List Char) : Option Binary64 :=
  let body := trimPadding cs
  match readSigned? body with
  | some x => some x
  | none => if groupsWell body then readSigned? (body.filter (· != '_')) else none

/-- A number. -/
def readNumber (v : Json) : Checked Binary64 :=
  match v with
  | .int n => if (Binary64.ofInt n).isFinite then .good (.ofInt n) else complain .notNumber v
  | .bool b => .good (.ofInt (if b then 1 else 0))
  | .real x => .good x
  | .str s => match s.string? with
    | some text => match readNumberText? text.toList with
      | some x => .good x
      | none => complain .badNumber v
    | none => complain .notUnicode v
  | _ => complain .notNumber v

/-- The items of a list, those from `index` on. -/
def readItems {α : Type} (read : Json → Checked α) (index : Nat) : List Json → Checked (List α)
  | [] => .good []
  | v :: rest =>
    (((read v).within (.item index)).map List.cons).app (readItems read (index + 1) rest)

/-- A list. -/
def readList {α : Type} (read : Json → Checked α) (v : Json) : Checked (List α) :=
  match v with
  | .arr items => readItems read 0 items
  | _ => complain .notList v

/-- A field that has to be there; without it the complaint shows the whole record. -/
def required {α : Type} (members : List (WideText × Json)) (name : String)
    (read : Json → Checked α) : Checked α :=
  match Json.member? members name with
  | some v => (read v).within (.field name)
  | none => .bad [⟨.missing, [.field name], .obj members⟩]

/-- A field that may be left out. -/
def optional {α : Type} (members : List (WideText × Json)) (name : String)
    (read : Json → Checked α) (default : α) : Checked α :=
  match Json.member? members name with
  | some v => (read v).within (.field name)
  | none => .good default

end VarsAdvisor.Form
