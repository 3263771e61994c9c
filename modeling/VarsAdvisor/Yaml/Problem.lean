import VarsAdvisor.Text.WideText
import VarsAdvisor.Text.Utf8
import VarsAdvisor.Text.Numeral

/-!
# What can be wrong with a YAML text

A `Problem` is an error of the text as YAML. A `Mishap` is a scalar that has the tag of a type and
no value of it, or a text whose collections are nested too deeply; it is not reported as an error of
the text. `Failure` is either, a problem together with its place.
-/

namespace VarsAdvisor.Yaml

open VarsAdvisor.Text

/-- The kinds of nodes. -/
inductive NodeKind where
  | scalar
  | sequence
  | mapping
  deriving DecidableEq, Repr

/-- The name of a kind of node. -/
def NodeKind.name : NodeKind → String
  | .scalar => "scalar"
  | .sequence => "sequence"
  | .mapping => "mapping"

/-- An error of a YAML text. -/
inductive Problem where
  | unacceptableCharacter (code : Nat)
  | missingColon
  | misplacedValue
  | misplacedKey
  | misplacedEntry
  | noToken (c : Char)
  | expectedName (c : Char)
  | expectedDigit (c : Char)
  | expectedDigitOrPoint (c : Char)
  | expectedHandleMark (c : Char)
  | expectedHandleEnd (c : Char)
  | expectedTagEnd (c : Char)
  | expectedSpace (c : Char)
  | expectedUri (c : Char)
  | expectedUriEscape (c : Char)
  | malformedUri (e : Utf8.Malformed)
  | expectedLineEnd (c : Char)
  | expectedIndicators (c : Char)
  | zeroIndentation
  | deeperThanFirstLine
  | unexpectedEnd
  | unexpectedSeparator
  | unknownEscape (c : Char)
  | expectedEscapeDigits (count : Nat) (c : Char)
  | expectedBlockEnd (found : String)
  | expectedContent (found : String)
  | expectedSequenceMark (found : String)
  | expectedMappingMark (found : String)
  | expectedDocumentStart (found : String)
  | contentAfterDocumentEnd (found : String)
  | duplicateVersion
  | incompatibleVersion
  | duplicateHandle (handle : String)
  | undefinedHandle (handle : String)
  | undefinedAlias (name : String)
  | anotherDocument
  | expectedKind (expected found : NodeKind)
  | mergeOfScalar
  | mergeOfItem (found : NodeKind)
  | repeatedMerge (key : WideText)
  | expectedPairs (found : NodeKind)
  | expectedPair (found : NodeKind)
  | expectedSinglePair (count : Nat)
  | notATimestamp (text : WideText)
  | malformedBase64 (detail : String)
  | notAscii (detail : String)
  | unhashableKey
  | noTypeForTag (tag : String)
  deriving DecidableEq, Repr

/-- A character between quotes. -/
def quotedChar (c : Char) : String :=
  quoted (String.singleton c)

/-- Four hexadecimal digits, or as many as are needed. -/
def codeText (n : Nat) : String :=
  String.ofList (hexDigits (if n < 0x10000 then 4 else if n < 0x100000 then 5 else 6) n)

/-- The wording of a problem. -/
def Problem.message : Problem → WideText
  | .unacceptableCharacter code =>
    s!"unacceptable character #x{codeText code}: special characters are not allowed"
  | .missingColon => "could not find expected ':'"
  | .misplacedValue => "mapping values are not allowed here"
  | .misplacedKey => "mapping keys are not allowed here"
  | .misplacedEntry => "sequence entries are not allowed here"
  | .noToken c => s!"found character {quotedChar c} that cannot start any token"
  | .expectedName c => s!"expected alphabetic or numeric character, but found {quotedChar c}"
  | .expectedDigit c => s!"expected a digit, but found {quotedChar c}"
  | .expectedDigitOrPoint c => s!"expected a digit or '.', but found {quotedChar c}"
  | .expectedHandleMark c => s!"expected '!', but found {quotedChar c}"
  | .expectedHandleEnd c => s!"expected '!' but found {quotedChar c}"
  | .expectedTagEnd c => s!"expected '>' but found {quotedChar c}"
  | .expectedSpace c => s!"expected ' ', but found {quotedChar c}"
  | .expectedUri c => s!"expected URI, but found {quotedChar c}"
  | .expectedUriEscape c =>
    s!"expected URI escape sequence of 2 hexdecimal numbers, but found {quotedChar c}"
  | .malformedUri e => e.message
  | .expectedLineEnd c => s!"expected a comment or a line break, but found {quotedChar c}"
  | .expectedIndicators c =>
    s!"expected chomping or indentation indicators, but found {quotedChar c}"
  | .zeroIndentation => "expected indentation indicator in the range 1-9, but found 0"
  | .deeperThanFirstLine => "more indented follow up line than first in a block scalar"
  | .unexpectedEnd => "found unexpected end of stream"
  | .unexpectedSeparator => "found unexpected document separator"
  | .unknownEscape c => s!"found unknown escape character {quotedChar c}"
  | .expectedEscapeDigits count c =>
    s!"expected escape sequence of {count} hexdecimal numbers, but found {quotedChar c}"
  | .expectedBlockEnd found => s!"expected <block end>, but found '{found}'"
  | .expectedContent found => s!"expected the node content, but found '{found}'"
  | .expectedSequenceMark found => s!"expected ',' or ']', but got '{found}'"
  | .expectedMappingMark found => s!"expected ',' or '\x7d', but got '{found}'"
  | .expectedDocumentStart found => s!"expected '<document start>', but found ('{found}',)"
  | .contentAfterDocumentEnd found =>
    s!"found non-comment content after document end marker, ('{found}',)"
  | .duplicateVersion => "found duplicate YAML directive"
  | .incompatibleVersion => "found incompatible YAML document (version 1.* is required)"
  | .duplicateHandle handle => s!"duplicate tag handle {quoted handle}"
  | .undefinedHandle handle => s!"found undefined tag handle {quoted handle}"
  | .undefinedAlias name => s!"found undefined alias {quoted name}"
  | .anotherDocument => "but found another document"
  | .expectedKind expected found => s!"expected a {expected.name} node, but found {found.name}"
  | .mergeOfScalar => "expected a mapping or list of mappings for merging, but found scalar"
  | .mergeOfItem found => s!"expected a mapping for merging, but found {found.name}"
  | .repeatedMerge key => "found duplicate merge key \"" ++ key ++ "\""
  | .expectedPairs found => s!"expected a sequence, but found {found.name}"
  | .expectedPair found => s!"expected a mapping of length 1, but found {found.name}"
  | .expectedSinglePair count => s!"expected a single mapping item, but found {count} items"
  | .notATimestamp text => "failed to construct timestamp from \"" ++ text ++ "\""
  | .malformedBase64 detail => s!"failed to decode base64 data: {detail}"
  | .notAscii detail => s!"failed to convert base64 data into ascii: {detail}"
  | .unhashableKey => "found unhashable key"
  | .noTypeForTag tag => s!"could not determine a constructor for the tag {quoted tag}"

/-- What is wrong with a date or a time of day. -/
inductive CalendarError where
  | year (n : Nat)
  | month
  | day
  | hour
  | minute
  | second
  | offset (minutes : Int)
  deriving DecidableEq, Repr

/-- A span of whole minutes, in days and in the seconds of a day. -/
def spanText (minutes : Int) : String :=
  let seconds := Int.emod minutes 1440 * 60
  let rest := if seconds = 0 then "" else s!", seconds={seconds}"
  s!"datetime.timedelta(days={Int.ediv minutes 1440}{rest})"

/-- The wording. -/
def CalendarError.message : CalendarError → String
  | .year n => s!"year {n} is out of range"
  | .month => "month must be in 1..12"
  | .day => "day is out of range for month"
  | .hour => "hour must be in 0..23"
  | .minute => "minute must be in 0..59"
  | .second => "second must be in 0..59"
  | .offset minutes =>
    s!"offset must be a timedelta strictly between -timedelta(hours=24) and timedelta(hours=24), not {spanText minutes}."

/-- How many calls may be in progress while a text is read, beside those around it. -/
def callRoom : Nat := 960

/-- A scalar without a value of its type, a key that cannot be looked up, or too many calls in
progress. -/
inductive Mishap where
  | numeral (e : NumeralError)
  | number (text : String)
  | exponents (tooMany : Bool)
  | noDigits
  | truth (text : String)
  | calendar (e : CalendarError)
  | dateOverflow
  | escapeCode
  | version (major minor : Nat)
  | overlap (first second : String)
  | assertion
  | unhashable (type : String)
  | noAttribute (type name : String)
  | nesting
  deriving DecidableEq, Repr

/-- The wording of a mishap. -/
def Mishap.message : Mishap → String
  | .numeral e => e.message
  | .number text => s!"could not convert string to float: {quoted text}"
  | .exponents true => "too many values to unpack (expected 2)"
  | .exponents false => "not enough values to unpack (expected 2, got 1)"
  | .noDigits => "string index out of range"
  | .truth text => quoted text
  | .calendar e => e.message
  | .dateOverflow => "date value out of range"
  | .escapeCode => "chr() arg not in range(0x110000)"
  | .version major minor =>
    s!"version minor part can only be 2 or 1, got ({major}, {minor})"
  | .overlap first second => s!"overlap in comment {first} {second}"
  | .assertion => ""
  | .unhashable type => s!"unhashable type: '{type}'"
  | .noAttribute type name => s!"'{type}' object has no attribute '{name}'"
  | .nesting => "maximum recursion depth exceeded"

/-- Why a text is not read. The place of a problem is an offset into the text. -/
inductive Failure where
  | problem (p : Problem) (place : Option Nat)
  | mishap (m : Mishap)
  deriving DecidableEq, Repr

end VarsAdvisor.Yaml
