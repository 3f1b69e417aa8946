import PatternInspector.Finding.Tally
import PatternInspector.Java.Detect
import PatternInspector.Syntax.Fault

/-!
The report on a unit of classes: every detection is also a violation whose severity its rule sets.
-/
namespace PatternInspector.Java

section Violations

structure Violation where
  rule : String
  pattern : Option Pattern := none
  category : Option Category := none
  severity : Severity
  message : String
  confidence : Option Confidence := none
  className : Option String := none
  methodName : Option String := none
  line : Option Int := none
  evidence : List String := []
  antipatterns : List String := []
  suggestion : Option String := none

def Violation.toValue (violation : Violation) : Value := .object [
  ("rule", .string violation.rule),
  ("pattern", .optional (.string ·.label) violation.pattern),
  ("category", .optional (.string ·.label) violation.category),
  ("severity", violation.severity.toValue),
  ("message", .string violation.message),
  ("confidence", .optional Confidence.toValue violation.confidence),
  ("class_name", .optional .string violation.className),
  ("method_name", .optional .string violation.methodName),
  ("line", .optional .int violation.line),
  ("evidence", .strings violation.evidence),
  ("antipatterns", .strings violation.antipatterns),
  ("suggestion", .optional .string violation.suggestion)]

/-- The words between hyphens, each with a capital letter, joined by blanks. -/
def displayName (label : String) : String :=
  joinWith " " ((label.toList.splitOn '-').map fun word => String.ofList (Text.capitalize word))

def violationOf (rules : Rules) (detection : Detection) : Violation := {
  rule := "pattern-" ++ detection.pattern.label
  pattern := detection.pattern
  category := detection.category
  severity := (rules.ruleFor detection.category detection.pattern).severity
  message := "パターンを検出しました: " ++ displayName detection.pattern.label ++ " (" ++
    detection.category.label ++ ") [信頼度: " ++ detection.confidence.label ++ "]"
  confidence := detection.confidence
  className := detection.className
  methodName := detection.methodName
  line := detection.line
  evidence := detection.evidence
  antipatterns := detection.antipatterns
  suggestion :=
    if detection.antipatterns.isEmpty then none
    else some (counted detection.antipatterns.length "件のアンチパターンを確認してください") }

end Violations

section Grouping

def countByCategory (categories : List (Option Category)) : List (Category × Nat) :=
  tally (categories.filterMap id)

end Grouping

section Reports

structure Report where
  filename : String
  detections : List Detection := []
  violations : List Violation := []
  rulesEvaluated : Nat := 0

def Report.toValue (report : Report) : Value := .object [
  ("filename", .string report.filename),
  ("detections", .items (report.detections.map Detection.toValue)),
  ("violations", .items (report.violations.map Violation.toValue)),
  ("rules_evaluated", .nat report.rulesEvaluated)]

def defaultFilename : String := "Unknown.java"

def reportOn (rules : Rules) (filename : String) (classes : List ClassModel) : Report :=
  let detections := detect rules classes
  { filename
    detections
    violations := detections.map (violationOf rules)
    rulesEvaluated := rules.enabledCount }

def faultReport (filename : String) (fault : Syntax.Fault) : Report := {
  filename
  violations := [{
    rule := parseErrorRule
    severity := .error
    message := "Javaコードの構文解析に失敗しました: " ++ fault.message
    line := fault.line.map Int.ofNat }] }

end Reports

end PatternInspector.Java
