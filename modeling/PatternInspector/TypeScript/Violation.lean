import PatternInspector.Finding.Severity

/-!
Violations of the style rules.
-/
namespace PatternInspector.TypeScript

inductive Category where
  | parse
  | naming
  | solid
  | codeSmells
  deriving DecidableEq

def Category.label : Category → String
  | .parse => "parse"
  | .naming => "naming"
  | .solid => "solid"
  | .codeSmells => "code_smells"

structure Violation where
  rule : String
  category : Category
  severity : Severity
  message : String
  line : Option Nat := none
  column : Option Nat := none
  suggestion : Option String := none
  evidence : List String := []
  deriving DecidableEq

def Violation.toValue (violation : Violation) : Value := .object [
  ("rule", .string violation.rule),
  ("category", .string violation.category.label),
  ("severity", violation.severity.toValue),
  ("message", .string violation.message),
  ("line", .optional .nat violation.line),
  ("column", .optional .nat violation.column),
  ("suggestion", .optional .string violation.suggestion),
  ("evidence", .strings violation.evidence)]

end PatternInspector.TypeScript
