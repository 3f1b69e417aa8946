import PatternInspector.Config.Model
import PatternInspector.Finding.Tally
import PatternInspector.Inspection.Catalog

/-!
The tools that a server offers. A tool is called by name with a mapping of arguments; a call with
arguments that do not fit, and one that fails for a reason the caller cannot mend, is rejected.
-/
namespace PatternInspector.Server

open PatternInspector.Inspection (Failure Service)

section Names

inductive Tool where
  | validateCode
  | validateFile
  | validateJavaCode
  | validateJavaFile
  | validateVueCode
  | validateVueFile
  | listPatterns
  | listJavaPatterns
  | listVuePatterns
  | getViolations
  deriving DecidableEq

def Tool.all : List Tool := [
  .validateCode, .validateFile, .validateJavaCode, .validateJavaFile, .validateVueCode,
  .validateVueFile, .listPatterns, .listJavaPatterns, .listVuePatterns, .getViolations]

def Tool.name : Tool → String
  | .validateCode => "validate_code"
  | .validateFile => "validate_file"
  | .validateJavaCode => "validate_java_code"
  | .validateJavaFile => "validate_java_file"
  | .validateVueCode => "validate_vue_code"
  | .validateVueFile => "validate_vue_file"
  | .listPatterns => "list_patterns"
  | .listJavaPatterns => "list_java_patterns"
  | .listVuePatterns => "list_vue_patterns"
  | .getViolations => "get_violations"

def Tool.ofName? (name : String) : Option Tool := Tool.all.find? fun tool => tool.name == name

end Names

section Arguments

open PatternInspector.Config

structure CodeArguments where
  code : Text
  filename : String

def checkCode (defaultName : String) : Value → Checked CodeArguments :=
  record ["code", "filename"] (fun default entries => do
    let code ← requiredField entries "code" "" checkText
    let filename ← field entries "filename" default.filename checkText
    return ⟨code.toList, filename⟩) ⟨[], defaultName⟩

def checkPath : Value → Checked String :=
  record ["filepath"] (fun _ entries => requiredField entries "filepath" "" checkText) ""

def checkNothing : Value → Checked Unit := record [] (fun _ _ => pure ()) ()

def checkFilter : Value → Checked (Option Severity) :=
  record ["severity"] (fun default entries =>
    field entries "severity" default (checkNullable .info checkSeverity)) none

end Arguments

section Answers

def typescriptAnswer (report : TypeScript.Report) : Value := .object [
  ("filename", .string report.filename),
  ("violations", .items (report.violations.map TypeScript.Violation.toValue)),
  ("error_count", .nat (report.count .error)),
  ("warning_count", .nat (report.count .warning)),
  ("info_count", .nat (report.count .info))]

def countsValue {α : Type} (label : α → String) (counts : List (α × Nat)) : Value :=
  .object (counts.map fun entry => (label entry.1, .nat entry.2))

def javaAnswer (report : Java.Report) : Value := .object [
  ("filename", .string report.filename),
  ("rules_evaluated", .nat report.rulesEvaluated),
  ("pattern_count", .nat report.detections.length),
  ("violations", .items (report.violations.map Java.Violation.toValue)),
  ("by_category", countsValue Java.Category.label
    (Java.countByCategory (report.violations.map (·.category))))]

def vueCategories (report : Component.Report) : List Component.Category :=
  report.detections.map (·.category) ++ report.violations.map (·.category)

def vueAnswer (report : Component.Report) : Value := .object [
  ("filename", .string report.filename),
  ("component", .optional Component.Outline.toSummary report.component),
  ("detections", .items (report.detections.map Component.Detection.toValue)),
  ("violations", .items (report.violations.map Component.Violation.toValue)),
  ("by_category", countsValue Component.Category.label (tally (vueCategories report)))]

def listAnswer (name : String) (items : List Value) : Value := .object [
  ("count", .nat items.length),
  (name, .items items)]

/-- The answer of a tool: a result, a refusal that explains itself, or none if the call is
rejected. -/
def answer {α : Type} (show? : α → Value) : Except Failure α → Option Value
  | .ok result => some (show? result)
  | .error failure => failure.refusal?.map Inspection.Refusal.toValue

end Answers

section Calls

/-- The files that a server sees: its configuration and its working directory. -/
structure Surroundings where
  config : Files.Tree := {}
  sources : Files.Tree := {}

def withArguments {α : Type} (checked : Config.Checked α) (run : α → Option Value) : Option Value :=
  match checked.toExcept with
  | .ok arguments => run arguments
  | .error _ => none

def fileAnswer (service : Service) (files : Surroundings) (path : FilePath) : Option Value :=
  answer typescriptAnswer (service.validateTypeScriptFile files.sources path)

def javaFileAnswer (service : Service) (files : Surroundings) (path : FilePath) : Option Value :=
  answer javaAnswer (service.validateJavaFile files.sources path)

def vueFileAnswer (service : Service) (files : Surroundings) (path : FilePath) : Option Value :=
  answer vueAnswer (service.validateVueFile files.sources path)

def Tool.call (tool : Tool) (service : Service) (files : Surroundings) (arguments : Value) :
    Option Value :=
  match tool with
  | .validateCode => withArguments (checkCode TypeScript.defaultFilename arguments) fun given =>
      some (typescriptAnswer (service.validateTypeScript given.code (some given.filename)))
  | .validateFile => withArguments (checkPath arguments) fun path =>
      fileAnswer service files path
  | .validateJavaCode => withArguments (checkCode Java.defaultFilename arguments) fun given =>
      answer javaAnswer (service.validateJava given.code (some given.filename))
  | .validateJavaFile => withArguments (checkPath arguments) fun path =>
      javaFileAnswer service files path
  | .validateVueCode => withArguments (checkCode Component.defaultFilename arguments) fun given =>
      answer vueAnswer (service.validateVue given.code (some given.filename))
  | .validateVueFile => withArguments (checkPath arguments) fun path =>
      vueFileAnswer service files path
  | .listPatterns => withArguments (checkNothing arguments) fun _ =>
      some service.listTypeScriptRules
  | .listJavaPatterns => withArguments (checkNothing arguments) fun _ =>
      answer (listAnswer "patterns") (service.listJavaPatterns files.config)
  | .listVuePatterns => withArguments (checkNothing arguments) fun _ =>
      answer (listAnswer "patterns") (service.listVuePatterns files.config)
  | .getViolations => withArguments (checkFilter arguments) fun severity =>
      answer (listAnswer "violations")
        (Service.violationGuide files.config (severity.map Severity.label))

def callTool (service : Service) (files : Surroundings) (name : String) (arguments : Value) :
    Option Value := do
  (← Tool.ofName? name).call service files arguments

end Calls

end PatternInspector.Server
