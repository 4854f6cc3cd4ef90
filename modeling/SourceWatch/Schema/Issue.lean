import SourceWatch.Json.Basic

/-!
# Issues

Values from outside are checked against what the program expects, field by field; everything that does
not fit is an issue.

Main definitions:

* `IssueKind`: what does not fit, with `code` and `message`.
* `Step`: a step from a value into one of its parts.
* `Issue`: what does not fit, where, and what was given.
-/

namespace SourceWatch

open Text

/-- What does not fit. -/
inductive IssueKind where
  | missing
  | frozen
  | notText
  | brokenText
  | notInteger
  | unreadableInteger
  | oversizedInteger
  | fractionalInteger
  | notFinite
  | tooSmall (bound : Int)
  | notBoolean
  | unreadableBoolean
  | notList
  | notDictionary
  | notSeverity
  | notRecord
  | malformedDocument
  deriving DecidableEq

namespace IssueKind

/-- The code of an issue. -/
def code : IssueKind → String
  | missing => "missing"
  | frozen => "frozen_instance"
  | notText => "string_type"
  | brokenText => "string_unicode"
  | notInteger => "int_type"
  | unreadableInteger => "int_parsing"
  | oversizedInteger => "int_parsing_size"
  | fractionalInteger => "int_from_float"
  | notFinite => "finite_number"
  | tooSmall _ => "greater_than_equal"
  | notBoolean => "bool_type"
  | unreadableBoolean => "bool_parsing"
  | notList => "list_type"
  | notDictionary => "dict_type"
  | notSeverity => "enum"
  | notRecord => "model_attributes_type"
  | malformedDocument => "json_invalid"

/-- The wording of an issue. -/
def message : IssueKind → String
  | missing => "Field required"
  | frozen => "Instance is frozen"
  | notText => "Input should be a valid string"
  | brokenText =>
    "Input should be a valid string, unable to parse raw data as a unicode string"
  | notInteger => "Input should be a valid integer"
  | unreadableInteger =>
    "Input should be a valid integer, unable to parse string as an integer"
  | oversizedInteger =>
    "Unable to parse input string as an integer, exceeded maximum size"
  | fractionalInteger =>
    "Input should be a valid integer, got a number with a fractional part"
  | notFinite => "Input should be a finite number"
  | tooSmall bound => s!"Input should be greater than or equal to {bound}"
  | notBoolean => "Input should be a valid boolean"
  | unreadableBoolean => "Input should be a valid boolean, unable to interpret input"
  | notList => "Input should be a valid list"
  | notDictionary => "Input should be a valid dictionary"
  | notSeverity => "Input should be 'critical', 'high', 'medium' or 'low'"
  | notRecord => "Input should be a valid dictionary or object to extract fields from"
  | malformedDocument => "JSON decode error"

end IssueKind

/-- A step from a value into one of its parts. -/
inductive Step where
  | name (n : CodeText)
  | index (i : Nat)
  deriving DecidableEq

/-- The step to a named field. -/
def Step.field (s : String) : Step :=
  .name (CodeText.ofString s)

/-- A step in a document. -/
def Step.toJson : Step → Json
  | name n => .text n
  | index i => .nat i

/-- What does not fit, where it stands, and what was given. -/
structure Issue where
  kind : IssueKind
  place : List Step
  given : Json

namespace Issue

/-- An issue seen from one step further out. -/
def under (step : Step) (i : Issue) : Issue :=
  { i with place := step :: i.place }

/-- The members that every document about an issue has. -/
def summary (i : Issue) : List (String × Json) :=
  [("type", .string i.kind.code),
    ("loc", .array (i.place.map Step.toJson)),
    ("msg", .string i.kind.message)]

/-- The document about an issue. -/
def toJson (i : Issue) : Json :=
  .record i.summary

end Issue

end SourceWatch
