import PatternInspector.Component.Outline
import PatternInspector.Finding.Severity

/-!
What a component check reports: detected patterns, violated rules, and the report that joins them.
-/
namespace PatternInspector.Component

inductive Category where
  | composables
  | components
  | antiPatterns
  | bestPractices
  | template
  | optionsApi
  | migration
  | parse
  deriving DecidableEq

def Category.label : Category → String
  | .composables => "composables"
  | .components => "components"
  | .antiPatterns => "anti_patterns"
  | .bestPractices => "best_practices"
  | .template => "template"
  | .optionsApi => "options_api"
  | .migration => "migration"
  | .parse => "parse"

inductive BlockKind where
  | template
  | script
  deriving DecidableEq

def BlockKind.label : BlockKind → String
  | .template => "template"
  | .script => "script"

structure Location where
  line : Nat := 1
  block : Option BlockKind := none
  deriving DecidableEq

def Location.toValue (location : Location) : Value := .object [
  ("line", .nat location.line),
  ("column", .null),
  ("block", .optional (fun kind => .string kind.label) location.block)]

/-- The place of a position in a block; the first line if there is no such block. -/
def locate (block : Option Block) (index : Nat) (kind : BlockKind) : Location :=
  match block with
  | none => ⟨1, some kind⟩
  | some found => ⟨found.lineOf index, some kind⟩

/-- The place of the first occurrence of a word in a block, its first line if there is none. -/
def locateWord (block : Option Block) (word : String) (kind : BlockKind) : Location :=
  locate block ((block.bind fun found => Text.find? word.toList found.content).getD 0) kind

structure Detection where
  pattern : String
  category : Category
  componentName : String
  location : Location
  confidence : Confidence
  evidence : List String
  antipatterns : List String := []
  suggestions : List String := []
  deriving DecidableEq

def Detection.toValue (detection : Detection) : Value := .object [
  ("pattern", .string detection.pattern),
  ("category", .string detection.category.label),
  ("component_name", .string detection.componentName),
  ("location", detection.location.toValue),
  ("confidence", detection.confidence.toValue),
  ("evidence", .strings detection.evidence),
  ("antipatterns", .strings detection.antipatterns),
  ("suggestions", .strings detection.suggestions)]

structure Violation where
  rule : String
  category : Category
  severity : Severity
  message : String
  location : Location
  suggestion : String
  evidence : List String := []
  deriving DecidableEq

def Violation.toValue (violation : Violation) : Value := .object [
  ("rule", .string violation.rule),
  ("category", .string violation.category.label),
  ("severity", violation.severity.toValue),
  ("message", .string violation.message),
  ("location", violation.location.toValue),
  ("suggestion", .string violation.suggestion),
  ("evidence", .strings violation.evidence)]

structure Report where
  filename : String
  component : Option Outline := none
  detections : List Detection := []
  violations : List Violation := []

def Report.toValue (report : Report) : Value := .object [
  ("filename", .string report.filename),
  ("component", .optional Outline.toValue report.component),
  ("detections", .items (report.detections.map Detection.toValue)),
  ("violations", .items (report.violations.map Violation.toValue))]

end PatternInspector.Component
