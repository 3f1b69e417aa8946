import PatternInspector.Value.Basic

/-!
How grave a violation is, how sure a detection is, and notes that are made under a condition.
-/
namespace PatternInspector

inductive Severity where
  | error
  | warning
  | info
  deriving DecidableEq

namespace Severity

def label : Severity → String
  | .error => "error"
  | .warning => "warning"
  | .info => "info"

def all : List Severity := [.error, .warning, .info]

def ofLabel? (label : String) : Option Severity := all.find? (·.label == label)

def toValue (severity : Severity) : Value := .string severity.label

end Severity

inductive Confidence where
  | low
  | medium
  | high
  deriving DecidableEq

namespace Confidence

def label : Confidence → String
  | .low => "low"
  | .medium => "medium"
  | .high => "high"

/-- High if the condition holds, and medium otherwise. -/
def highIf (condition : Bool) : Confidence := if condition then .high else .medium

def toValue (confidence : Confidence) : Value := .string confidence.label

end Confidence

def noteIf (condition : Bool) (note : String) : List String := if condition then [note] else []

/-- The rule of the one violation that a text which cannot be parsed gets. -/
def parseErrorRule : String := "parse-error"

end PatternInspector
