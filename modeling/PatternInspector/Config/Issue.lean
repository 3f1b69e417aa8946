import PatternInspector.Value.Basic

/-!
Issues found while checking configuration data, each with the path to the value it is about.
-/
namespace PatternInspector.Config

inductive IssueKind where
  /-- A mapping was expected. -/
  | notAMapping
  | unknownKey
  /-- A key that is not a text. -/
  | invalidKey
  /-- The value is none of the allowed ones. -/
  | notAChoice
  | notPositive
  | notAnInteger
  | unreadableInteger
  | oversizedInteger
  | fractionalInteger
  | infiniteInteger
  | notABoolean
  | unreadableBoolean
  | notAText
  | notAList
  /-- A field without a default was left out. -/
  | missingField
  deriving DecidableEq

def IssueKind.label : IssueKind → String
  | .notAMapping => "model_type"
  | .unknownKey => "extra_forbidden"
  | .invalidKey => "invalid_key"
  | .notAChoice => "literal_error"
  | .notPositive => "greater_than"
  | .notAnInteger => "int_type"
  | .unreadableInteger => "int_parsing"
  | .oversizedInteger => "int_parsing_size"
  | .fractionalInteger => "int_from_float"
  | .infiniteInteger => "finite_number"
  | .notABoolean => "bool_type"
  | .unreadableBoolean => "bool_parsing"
  | .notAText => "string_type"
  | .notAList => "list_type"
  | .missingField => "missing"

/-- An issue and the keys that lead to it from the top. -/
structure Issue where
  path : List Value
  kind : IssueKind

def Issue.toValue (issue : Issue) : Value := .object [
  ("loc", .items issue.path),
  ("type", .string issue.kind.label)]

end PatternInspector.Config
