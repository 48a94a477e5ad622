import ReadmePress.Json.Value

/-!
Issues that validation finds in arguments: where, what, and with which input.
-/

namespace ReadmePress

open ReadmePress.Text

/-- A step on the way from the arguments to the place of an issue. -/
inductive IssueStep where
  | field (name : String)
  | index (place : Nat)
  deriving DecidableEq, Repr

inductive IssueKind where
  | missing
  | notText
  /-- The text holds lone surrogates. -/
  | illFormedText
  | tooShort (least : Nat)
  | notList
  | notMapping
  | notInteger
  /-- A text that does not read as an integer. -/
  | notIntegerText
  | fractional
  /-- An integer too great to be converted. -/
  | integerTooGreat
  | notFinite
  | below (least : Int)
  | above (greatest : Int)
  | notTruth
  /-- A text or a number that stands for no truth value. -/
  | notTruthText
  | notOneOf (choices : String)
  deriving DecidableEq, Repr

namespace IssueKind

def name : IssueKind → String
  | .missing => "missing"
  | .notText => "string_type"
  | .illFormedText => "string_unicode"
  | .tooShort _ => "string_too_short"
  | .notList => "list_type"
  | .notMapping => "dict_type"
  | .notInteger => "int_type"
  | .notIntegerText => "int_parsing"
  | .fractional => "int_from_float"
  | .integerTooGreat => "int_parsing_size"
  | .notFinite => "finite_number"
  | .below _ => "greater_than_equal"
  | .above _ => "less_than_equal"
  | .notTruth => "bool_type"
  | .notTruthText => "bool_parsing"
  | .notOneOf _ => "literal_error"

def message : IssueKind → String
  | .missing => "Field required"
  | .notText => "Input should be a valid string"
  | .illFormedText =>
      "Input should be a valid string, unable to parse raw data as a unicode string"
  | .tooShort least =>
      "String should have at least " ++ toString least ++ " character"
        ++ (if least = 1 then "" else "s")
  | .notList => "Input should be a valid list"
  | .notMapping => "Input should be a valid dictionary"
  | .notInteger => "Input should be a valid integer"
  | .notIntegerText => "Input should be a valid integer, unable to parse string as an integer"
  | .fractional => "Input should be a valid integer, got a number with a fractional part"
  | .integerTooGreat =>
      "Unable to parse input string as an integer, exceeded maximum size"
  | .notFinite => "Input should be a finite number"
  | .below least => "Input should be greater than or equal to " ++ toString least
  | .above greatest => "Input should be less than or equal to " ++ toString greatest
  | .notTruth => "Input should be a valid boolean"
  | .notTruthText => "Input should be a valid boolean, unable to interpret input"
  | .notOneOf choices => "Input should be " ++ choices

/-- What the message of an issue depends on, apart from the input. -/
def context : IssueKind → List (String × Json)
  | .tooShort least => [("min_length", .integer least)]
  | .below least => [("ge", .integer least)]
  | .above greatest => [("le", .integer greatest)]
  | .notOneOf choices => [("expected", Json.ofString choices)]
  | _ => []

end IssueKind

structure Issue where
  location : List IssueStep
  kind : IssueKind
  input : Json
  deriving Repr

/-- A value, or all issues that keep it from being one. -/
abbrev Validated (Value : Type) := Except (List Issue) Value

namespace Validated

variable {Value Other : Type}

/-- One issue at the place of the input itself. -/
def refuse (kind : IssueKind) (input : Json) : Validated Value :=
  .error [{ location := [], kind := kind, input := input }]

def issues : Validated Value → List Issue
  | .ok _ => []
  | .error issues => issues

/-- Issues of a part, seen from the whole. -/
def within (step : IssueStep) (value : Validated Value) : Validated Value :=
  value.mapError fun issues =>
    issues.map fun issue => { issue with location := step :: issue.location }

end Validated

end ReadmePress
