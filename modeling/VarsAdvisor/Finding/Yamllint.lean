import VarsAdvisor.Finding.Basic
import VarsAdvisor.Text.Blank
import VarsAdvisor.Text.LineBreak
import VarsAdvisor.Text.Numeral
import VarsAdvisor.Text.Word

/-!
# Output of yamllint

A finding is one line, in the standard form `  line:column  level  message  (rule)` or in the
parsable form `path:line:column: [level] message (rule)`. Lines of any other shape are passed over.
-/

namespace VarsAdvisor.Yamllint

open VarsAdvisor.Text

/-- The name of the linter. -/
def toolName : String := "yamllint"

/-- The parts of a finding's line, the numbers still as digits. -/
structure Entry where
  line : List Char
  column : List Char
  severity : Severity
  message : List Char
  rule : Option (List Char)
  deriving DecidableEq, Repr

/-- Digits at the start of a text that a colon follows, and what stands behind the colon. -/
def readNumber? (cs : List Char) : Option (List Char × List Char) :=
  match cs.takeWhile isDigit, cs.dropWhile isDigit with
  | [], _ => none
  | ds, ':' :: r => some (ds, r)
  | _, _ => none

/-- Without one leading `mark`. -/
def dropMark (mark : Char) : List Char → List Char
  | c :: r => if c = mark then r else c :: r
  | [] => []

/-- What stands behind one or more blanks. -/
def skipBlanks? (cs : List Char) : Option (List Char) :=
  match cs with
  | c :: r => if isBlank c then some (trimStart r) else none
  | [] => none

/-- The level at the start of a text. -/
def readLevel? (cs : List Char) : Option (Severity × List Char) :=
  if "error".toList.isPrefixOf cs then some (.error, cs.drop 5)
  else if "warning".toList.isPrefixOf cs then some (.warning, cs.drop 7)
  else none

/-- The rule in a text that is nothing but blanks, a rule in parentheses, and blanks. -/
def readRule? (cs : List Char) : Option (List Char) :=
  match skipBlanks? cs with
  | some ('(' :: r) =>
    match r.takeWhile isRuleChar, r.dropWhile isRuleChar with
    | [], _ => none
    | rule, ')' :: after => if after.all isBlank then some rule else none
    | _, _ => none
  | _ => none

/-- Splits the text behind the level: the message ends where only a rule or only blanks follow. -/
def splitMessage (cs : List Char) : List Char × Option (List Char) :=
  match readRule? cs with
  | some rule => ([], some rule)
  | none =>
    if cs.all isBlank then ([], none)
    else match cs with
      | [] => ([], none)
      | c :: r => let (message, rule) := splitMessage r; (c :: message, rule)

/-- A text from the line number on. -/
def readEntry? (cs : List Char) : Option Entry := do
  let (line, afterLine) ← readNumber? cs
  let column := afterLine.takeWhile isDigit
  if column.isEmpty then none
  else
    let afterColumn ← skipBlanks? (dropMark ':' (afterLine.dropWhile isDigit))
    let (severity, afterLevel) ← readLevel? (dropMark '[' afterColumn)
    let body ← skipBlanks? (dropMark ']' afterLevel)
    let (message, rule) := splitMessage body
    pure ⟨line, column, severity, message, rule⟩

/-- The entry behind the first colon that one follows. -/
def readAfterPath? : List Char → Option Entry
  | [] => none
  | ':' :: r => match readEntry? r with
    | some e => some e
    | none => readAfterPath? r
  | _ :: r => readAfterPath? r

/-- The entry of a line, with a path before it or without one. -/
def readLine? (cs : List Char) : Option Entry :=
  let body := trimStart cs
  match readAfterPath? body with
  | some e => some e
  | none => readEntry? body

/-- The finding of an entry. -/
def Entry.finding (e : Entry) : Except NumeralError Finding := do
  let line ← parseDigits e.line
  let column ← parseDigits e.column
  pure ⟨toolName, line, some column, e.severity, String.ofList e.message, e.rule.map String.ofList⟩

/-- The findings that an output reports. -/
def parse (stdout : String) : Except NumeralError (List Finding) :=
  ((splitLines stdout.toList).filterMap readLine?).mapM Entry.finding

end VarsAdvisor.Yamllint
