import PatternInspector.Files.Path
import PatternInspector.Syntax.Fault
import PatternInspector.TypeScript.NamingCheck
import PatternInspector.TypeScript.SizeCheck
import PatternInspector.TypeScript.SmellCheck

/-!
The report on a file of code: violations of naming, of size limits, and code smells, in this order.
-/
namespace PatternInspector.TypeScript

open PatternInspector.Syntax (Node)

structure Report where
  filename : String
  violations : List Violation := []

namespace Report

def toValue (report : Report) : Value := .object [
  ("filename", .string report.filename),
  ("violations", .items (report.violations.map Violation.toValue))]

def count (report : Report) (severity : Severity) : Nat :=
  report.violations.countP fun violation => violation.severity == severity

def counts (report : Report) : Value :=
  .object (Severity.all.map fun severity => (severity.label, .nat (report.count severity)))

end Report

/-- The two dialects: the one with markup in expressions reads `<` differently. -/
inductive Dialect where
  | plain
  | markup
  deriving DecidableEq

def Dialect.label : Dialect → String
  | .plain => "typescript"
  | .markup => "tsx"

def dialectOf (filename : String) : Dialect :=
  let extension := lowerString (Path.extension filename).display
  if extension == ".tsx" || extension == ".jsx" then .markup else .plain

def defaultFilename : String := "unknown.ts"

def violations (rules : Rules) (root : Node) (code : Text) : List Violation :=
  (if rules.naming.enabled then checkNames rules.naming root else []) ++
  (if rules.solid.enabled then checkSizes rules root else []) ++
  (if rules.codeSmells.enabled then checkSmells rules.codeSmells root code else [])

def faultReport (filename : String) (fault : Syntax.Fault) : Report := {
  filename
  violations := [{
    rule := parseErrorRule
    category := .parse
    severity := .warning
    message := "コードの構文解析に失敗しました: " ++ fault.message
    line := fault.line
    column := fault.column
    suggestion := "コードの構文を確認してください" }] }

/-- The report on a syntax tree, or on the fault that stands in its place. -/
def reportOnTree (rules : Rules) (filename : String) (code : Text) :
    Except Syntax.Fault Node → Report
  | .error fault => faultReport filename fault
  | .ok root => { filename, violations := violations rules root code }

end PatternInspector.TypeScript
