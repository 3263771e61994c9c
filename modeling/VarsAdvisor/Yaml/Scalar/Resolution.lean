import VarsAdvisor.Yaml.Cursor
import VarsAdvisor.Yaml.Problem
import VarsAdvisor.Yaml.Scalar.Tag

/-!
# Types of plain scalars

A plain scalar without a tag has the type whose form it has: a truth value, a number, a merge key,
null or a timestamp, and else it is a text. Version 1.1 knows more forms of truth values, octal
numbers without a letter, and numbers to the base sixty.
-/

namespace VarsAdvisor.Yaml

/-- The part of a text behind a sign. -/
def unsigned : List Char → List Char
  | '-' :: r => r
  | '+' :: r => r
  | cs => cs

/-- A digit or an underscore. -/
def isDigitOrGap (c : Char) : Bool :=
  isNumeric c || c == '_'

/-- One or more characters of a class, and nothing else. -/
def isAllOf (p : Char → Bool) (cs : List Char) : Bool :=
  !cs.isEmpty && cs.all p

/-- A digit of base eight or an underscore. -/
def isOctalOrGap (c : Char) : Bool :=
  ('0' ≤ c && c ≤ '7') || c == '_'

/-- A digit of base two or an underscore. -/
def isBinaryOrGap (c : Char) : Bool :=
  c == '0' || c == '1' || c == '_'

/-- A hexadecimal digit or an underscore. -/
def isHexOrGap (c : Char) : Bool :=
  isHex c || c == '_'

/-- The words for truth values. -/
def truthWords (oldVersion : Bool) : List String :=
  if oldVersion then
    ["y", "Y", "yes", "Yes", "YES", "n", "N", "no", "No", "NO", "true", "True", "TRUE", "false",
      "False", "FALSE", "on", "On", "ON", "off", "Off", "OFF"]
  else ["true", "True", "TRUE", "false", "False", "FALSE"]

/-- Digits behind a sign, which may have to be there. -/
def isSignedDigits (signRequired : Bool) : List Char → Bool
  | '-' :: r => isAllOf isNumeric r
  | '+' :: r => isAllOf isNumeric r
  | r => !signRequired && isAllOf isNumeric r

/-- An exponent with its mark; the sign may have to be there. -/
def isExponent (signRequired : Bool) : List Char → Bool
  | 'e' :: r => isSignedDigits signRequired r
  | 'E' :: r => isSignedDigits signRequired r
  | _ => false

/-- Groups of at most two digits, the first below six if there are two, each behind a colon; with
`fraction` the last of them has a point and digits behind it. -/
def isSixtiesTail (fraction : Bool) : Nat → List Char → Bool
  | 0, _ => false
  | fuel + 1, cs =>
    match cs with
    | ':' :: r =>
      let ends (rest : List Char) : Bool :=
        (if fraction then match rest with
          | '.' :: f => f.all isDigitOrGap
          | _ => false
        else rest.isEmpty) || isSixtiesTail fraction fuel rest
      match r with
      | a :: b :: rest =>
        if isNumeric a && isNumeric b then ('0' ≤ a && a ≤ '5') && ends rest
        else isNumeric a && ends (b :: rest)
      | [a] => isNumeric a && ends []
      | [] => false
    | _ => false

/-- The form of a number with a fraction or an exponent. -/
def isFloatForm (oldVersion : Bool) (cs : List Char) : Bool :=
  let body := unsigned cs
  let isSigned := body.length != cs.length
  let whole := body.takeWhile isDigitOrGap
  let rest := body.dropWhile isDigitOrGap
  let startsWithDigit := (body.head?.map isNumeric).getD false
  if startsWithDigit then
    match rest with
    | '.' :: r =>
      let tail := r.dropWhile isDigitOrGap
      tail.isEmpty || isExponent false tail
    | ':' :: _ =>
      oldVersion && whole.length != 0 && isSixtiesTail true rest.length rest
    | _ => isExponent false rest
  else match body with
    | '.' :: r =>
      let tail := r.dropWhile isDigitOrGap
      let digits := !(r.takeWhile isDigitOrGap).isEmpty && (tail.isEmpty || isExponent true tail)
      let word := String.ofList r
      (digits && !(oldVersion && isSigned)) || word == "inf" || word == "Inf" || word == "INF" ||
        (!isSigned && (word == "nan" || word == "NaN" || word == "NAN"))
    | _ => false

/-- The form of a whole number. -/
def isIntForm (oldVersion : Bool) (cs : List Char) : Bool :=
  let firstFits := (cs.head?.map fun c => isNumeric c || c == '-' || c == '+').getD false
  let body := unsigned cs
  firstFits && (match body with
    | '0' :: 'b' :: r => isAllOf isBinaryOrGap r
    | '0' :: 'x' :: r => isAllOf isHexOrGap r
    | '0' :: 'o' :: r => !oldVersion && isAllOf isOctalOrGap r
    | _ =>
      if oldVersion then
        isAllOf isOctalOrGap body || body == ['0'] ||
          ((body.head?.map fun c => '1' ≤ c && c ≤ '9').getD false &&
            (body.all isDigitOrGap ||
              isSixtiesTail false body.length (body.dropWhile isDigitOrGap)))
      else isAllOf isDigitOrGap body)

/-- The form of a day, with four digits of a year and two of month and day. -/
def isDateForm : List Char → Bool
  | [a, b, c, d, '-', e, f, '-', g, h] => [a, b, c, d, e, f, g, h].all isNumeric
  | _ => false

/-- The parts of a timestamp as digits; the parts of the time of day and the offset may be
missing. -/
structure TimestampForm where
  year : List Char
  month : List Char
  day : List Char
  time : Option (List Char × List Char × List Char)
  fraction : List Char
  offset : Option (Bool × List Char × List Char)
  deriving Repr

/-- Between one and `most` digits, as many as there are, and the rest. -/
def takeDigits? (least most : Nat) (cs : List Char) : Option (List Char × List Char) :=
  let ds := (cs.take most).takeWhile isNumeric
  if least ≤ ds.length then some (ds, cs.drop ds.length) else none

/-- What stands behind a certain character. -/
def behind? (mark : Char) : List Char → Option (List Char)
  | c :: r => if c = mark then some r else none
  | [] => none

/-- An offset from universal time. -/
def readOffset? (cs : List Char) : Option (Option (Bool × List Char × List Char)) :=
  match cs with
  | [] => some none
  | _ =>
    match cs.dropWhile isSpaceOrTab with
    | ['Z'] => some (some (false, ['0'], []))
    | sign :: r =>
      if sign = '-' ∨ sign = '+' then do
        let (hour, rest) ← takeDigits? 1 2 r
        match rest with
        | [] => pure (some (sign == '-', hour, []))
        | _ => do
          let (minute, rest) ← takeDigits? 2 2 (← behind? ':' rest)
          if rest.isEmpty then pure (some (sign == '-', hour, minute)) else none
      else none
    | [] => none

/-- The parts of a timestamp; a day alone is one too. -/
def timestampParts? (cs : List Char) : Option TimestampForm := do
  let (year, r) ← takeDigits? 4 4 cs
  let (month, r) ← takeDigits? 1 2 (← behind? '-' r)
  let (day, r) ← takeDigits? 1 2 (← behind? '-' r)
  match r with
  | [] => pure ⟨year, month, day, none, [], none⟩
  | c :: rest =>
    let timeText := if c = 'T' ∨ c = 't' then rest else r.dropWhile isSpaceOrTab
    if c = 'T' ∨ c = 't' ∨ isSpaceOrTab c then do
      let (hour, r) ← takeDigits? 1 2 timeText
      let (minute, r) ← takeDigits? 2 2 (← behind? ':' r)
      let (second, r) ← takeDigits? 2 2 (← behind? ':' r)
      let (fraction, r) := match r with
        | '.' :: f => (f.takeWhile isNumeric, f.dropWhile isNumeric)
        | _ => ([], r)
      let offset ← readOffset? r
      pure ⟨year, month, day, some (hour, minute, second), fraction, offset⟩
    else none

/-- Without one line feed at the end. -/
def dropLineFeed (cs : List Char) : List Char :=
  if cs.getLast? = some '\n' then cs.dropLast else cs

/-- The parts of a timestamp that a line feed may follow. -/
def readTimestamp? (cs : List Char) : Option TimestampForm :=
  timestampParts? (dropLineFeed cs)

/-- The form of a timestamp: two digits of month and day if there is no time of day. -/
def isTimestampForm (cs : List Char) : Bool :=
  isDateForm cs || (timestampParts? cs).any fun t => t.time.isSome

/-- The URI of the type that `=` has. -/
def valueUri : String := coreBase ++ "value"

/-- The type of a plain scalar. A line feed at the end counts only if nothing else is there. -/
def resolvePlain (oldVersion : Bool) (text : String) : Tag :=
  let cs := if text = "\n" then text.toList else dropLineFeed text.toList
  let word := String.ofList cs
  if (truthWords oldVersion).contains word then .core .bool
  else if isFloatForm oldVersion cs then .core .float
  else if isIntForm oldVersion cs then .core .int
  else if word = "<<" then .merge
  else if ["", "~", "null", "Null", "NULL"].contains word then .core .null
  else if isTimestampForm cs then .core .timestamp
  else if word = "=" then .other valueUri
  else .core .str

end VarsAdvisor.Yaml
