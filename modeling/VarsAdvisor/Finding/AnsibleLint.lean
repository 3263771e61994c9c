import VarsAdvisor.Finding.Basic
import VarsAdvisor.Text.Blank
import VarsAdvisor.Text.LineBreak
import VarsAdvisor.Text.Numeral
import VarsAdvisor.Text.Word

/-!
# Output of ansible-lint

Each finding is a message line followed, after any blank lines, by a locator line `path:line` or
`path:line:column`. A line that stands where no message is waiting is itself a message, even if it
looks like a locator.
-/

namespace VarsAdvisor.AnsibleLint

open VarsAdvisor.Text

/-- The name of the linter. -/
def toolName : String := "ansible-lint"

/-- The digits of a line and, if given, of a column. -/
structure Locator where
  line : List Char
  column : Option (List Char)
  deriving DecidableEq, Repr

/-- A whole text that reads `line` or `line:column` in digits. -/
def readPlace? (cs : List Char) : Option Locator :=
  let line := cs.takeWhile isDigit
  if line.isEmpty then none
  else match cs.dropWhile isDigit with
    | [] => some ⟨line, none⟩
    | ':' :: column => if !column.isEmpty && column.all isDigit then some ⟨line, some column⟩ else none
    | _ => none

/-- The place behind the first colon that one follows. -/
def readAfterPath? : List Char → Option Locator
  | [] => none
  | ':' :: r => match readPlace? r with
    | some place => some place
    | none => readAfterPath? r
  | _ :: r => readAfterPath? r

/-- The place that a locator line names. -/
def readLocator? : List Char → Option Locator
  | [] => none
  | c :: r => if isBlank c then none else readAfterPath? r

/-- A rule's name and the tag in brackets that may follow it. -/
def spanRule (cs : List Char) : List Char × List Char :=
  let name := cs.takeWhile isRuleChar
  let rest := cs.dropWhile isRuleChar
  match rest with
  | '[' :: r =>
    let tag := r.takeWhile isRuleChar
    match tag.isEmpty, r.dropWhile isRuleChar with
    | false, ']' :: after => (name ++ '[' :: tag ++ [']'], after)
    | _, _ => (name, rest)
  | _ => (name, rest)

/-- Takes `rule: message` apart. -/
def readRule? (cs : List Char) : Option (List Char × List Char) :=
  let (rule, rest) := spanRule cs
  if cs.takeWhile isRuleChar = [] then none
  else match rest with
    | ':' :: c :: r =>
      let message := trimStart r
      if isBlank c && !message.isEmpty then some (rule, message) else none
    | _ => none

/-- The finding of a message line and the locator after it. -/
def finding (message : List Char) (place : Locator) : Except NumeralError Finding := do
  let line ← parseDigits place.line
  let column ← place.column.mapM parseDigits
  let (rule, text) := match readRule? message with
    | some (rule, text) => (some (String.ofList rule), text)
    | none => (none, message)
  pure ⟨toolName, line, column, .error, String.ofList text, rule⟩

/-- Reads lines while `waiting` is the message that has no locator yet. -/
def readLines (waiting : Option (List Char)) : List (List Char) → Except NumeralError (List Finding)
  | [] => .ok []
  | raw :: rest =>
    let line := trim raw
    if line.isEmpty then readLines waiting rest
    else match waiting, readLocator? line with
      | some message, some place => do
        let f ← finding message place
        let fs ← readLines none rest
        pure (f :: fs)
      | _, _ => readLines (some line) rest

/-- The findings that an output reports. -/
def parse (stdout : String) : Except NumeralError (List Finding) :=
  readLines none (splitLines stdout.toList)

end VarsAdvisor.AnsibleLint
