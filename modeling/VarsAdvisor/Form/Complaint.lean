import VarsAdvisor.Json.Basic
import VarsAdvisor.Text.Search

/-!
# Complaints about forms

A form is a JSON value that has to have a certain shape, such as a request or a file of options.
A complaint says what is wrong with a part of it, and where that part is.
-/

namespace VarsAdvisor.Form

open VarsAdvisor.Text

/-- A step to a part of a form. -/
inductive Place where
  | field (name : String)
  | item (index : Nat)
  deriving DecidableEq, Repr

/-- What is wrong with a part of a form. -/
inductive Cause where
  | missing
  | notString
  | notUnicode
  | tooShort (least : Nat)
  | notInteger
  | badInteger
  | fractional
  | notFinite
  | oversized
  | notNumber
  | badNumber
  | notList
  | notPath
  | notOneOf (choices : List String)
  | notRecord (name : String)
  | notFields
  deriving DecidableEq, Repr

/-- The short name of a cause. -/
def Cause.code : Cause → String
  | .missing => "missing"
  | .notString => "string_type"
  | .notUnicode => "string_unicode"
  | .tooShort _ => "string_too_short"
  | .notInteger => "int_type"
  | .badInteger => "int_parsing"
  | .fractional => "int_from_float"
  | .notFinite => "finite_number"
  | .oversized => "int_parsing_size"
  | .notNumber => "float_type"
  | .badNumber => "float_parsing"
  | .notList => "list_type"
  | .notPath => "path_type"
  | .notOneOf _ => "literal_error"
  | .notRecord _ => "model_type"
  | .notFields => "model_attributes_type"

/-- The choices between apostrophes, with `or` before the last. -/
def alternatives (choices : List String) : String :=
  let quoted := choices.map fun c => s!"'{c}'"
  match quoted.reverse with
  | [] => ""
  | [c] => c
  | last :: earlier => joined ", " earlier.reverse ++ " or " ++ last

/-- The wording of a cause. -/
def Cause.message : Cause → String
  | .missing => "Field required"
  | .notString => "Input should be a valid string"
  | .notUnicode =>
    "Input should be a valid string, unable to parse raw data as a unicode string"
  | .tooShort least =>
    let noun := if least = 1 then "character" else "characters"
    s!"String should have at least {least} {noun}"
  | .notInteger => "Input should be a valid integer"
  | .badInteger => "Input should be a valid integer, unable to parse string as an integer"
  | .fractional => "Input should be a valid integer, got a number with a fractional part"
  | .notFinite => "Input should be a finite number"
  | .oversized => "Unable to parse input string as an integer, exceeded maximum size"
  | .notNumber => "Input should be a valid number"
  | .badNumber => "Input should be a valid number, unable to parse string as a number"
  | .notList => "Input should be a valid list"
  | .notPath => "Input is not a valid path for <class 'pathlib.Path'>"
  | .notOneOf choices => s!"Input should be {alternatives choices}"
  | .notRecord name => s!"Input should be a valid dictionary or instance of {name}"
  | .notFields => "Input should be a valid dictionary or object to extract fields from"

/-- A complaint about the part of a form at a place, with the part itself. -/
structure Complaint where
  cause : Cause
  place : List Place
  input : Json
  deriving Repr

/-- The complaint about a part of a part. -/
def Complaint.within (step : Place) (c : Complaint) : Complaint :=
  { c with place := step :: c.place }

/-- How many complaints there are, in words. -/
def summary (complaints : List Complaint) : String :=
  s!"{complaints.length} error(s)"

end VarsAdvisor.Form
