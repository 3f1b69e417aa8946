import PatternInspector.Proofs.Component.Switch
import PatternInspector.Proofs.Config.Reading
import PatternInspector.Proofs.Finding.Tally
import PatternInspector.Proofs.Server.FileTool

/-!
The totals in the answers of the tools. They are taken in passes of their own over the findings of a
report, and they agree with the findings and with each other. That holds as well where a text could
not be read: then the failure is the only finding.
-/
namespace PatternInspector

section Failing

/-- The rules of the violations in a report tell whether reading failed: a parse error is among them
exactly then, and it is the only one. -/
structure FailsAlone (failed : Prop) (rules : List String) : Prop where
  reported : parseErrorRule ∈ rules ↔ failed
  alone : failed → rules = [parseErrorRule]

theorem alone_failed {failed : Prop} (happened : failed) : FailsAlone failed [parseErrorRule] := by
  constructor
  · exact iff_of_true List.mem_cons_self happened
  · intro _
    rfl

theorem alone_passed {α : Type} {failed : Prop} {rule : α → String} {violations : List α}
    (avoided : ¬ failed) (others : ∀ violation ∈ violations, rule violation ≠ parseErrorRule) :
    FailsAlone failed (violations.map rule) := by
  constructor
  · apply iff_of_false _ avoided
    intro member
    obtain ⟨violation, given, same⟩ := List.mem_map.mp member
    exact others violation given same
  · intro happened
    exact absurd happened avoided

end Failing

namespace TypeScript

open PatternInspector.Syntax (Fault Node)

theorem kind_not_parse_error : ∀ kind ∈ panel.kinds, kind.1 ≠ parseErrorRule := by decide

theorem tree_fails_alone (rules : Rules) (filename : String) (code : Text)
    (outcome : Except Fault Node) : FailsAlone (∃ fault, outcome = .error fault)
      ((reportOnTree rules filename code outcome).violations.map (·.rule)) := by
  cases outcome with
  | error fault => exact alone_failed ⟨fault, rfl⟩
  | ok root =>
      apply alone_passed
      · rintro ⟨fault, ⟨⟩⟩
      · intro violation given
        exact kind_not_parse_error _ ((violations_behind root code).known rules violation given)

theorem severities_add_up (report : Report) :
    report.count .error + report.count .warning + report.count .info =
      report.violations.length := by
  unfold Report.count
  induction report.violations with
  | nil => rfl
  | cons violation others ih =>
      simp only [List.countP_cons, List.length_cons, ← ih]
      cases violation.severity <;> simp <;> omega

end TypeScript

namespace Java

open PatternInspector.Syntax (Fault Node)

theorem pattern_rule_other (label : String) : "pattern-" ++ label ≠ parseErrorRule := by
  intro same
  have texts := congrArg String.toList same
  simp [parseErrorRule] at texts

theorem tree_fails_alone (rules : Rules) (filename : String) (outcome : Except Fault Node) :
    FailsAlone (∃ fault, outcome = .error fault)
      ((reportOnTree rules filename outcome).violations.map (·.rule)) := by
  cases outcome with
  | error fault => exact alone_failed ⟨fault, rfl⟩
  | ok root =>
      apply alone_passed
      · rintro ⟨fault, ⟨⟩⟩
      · intro violation given
        obtain ⟨detection, -, rfl⟩ := List.mem_map.mp given
        exact pattern_rule_other detection.pattern.label

theorem category_label_injective : Function.Injective Category.label := by
  intro first second
  cases first <;> cases second <;> decide

end Java

namespace Component

theorem kind_not_parse_error : ∀ kind ∈ panel.kinds, kind.name ≠ parseErrorRule := by decide

theorem category_label_injective : Function.Injective Category.label := by
  intro first second
  cases first <;> cases second <;> decide

theorem validate_fails_alone (rules : Rules) (code : Text) (filename : String) :
    ∃ report, validate rules code filename = .ok report ∧
      FailsAlone (∃ fault, split code filename = .error fault)
        (report.violations.map (·.rule)) ∧
      ((∃ fault, split code filename = .error fault) → report.detections = []) := by
  cases result : split code filename with
  | error fault =>
      exact ⟨_, validate_fault rules result, alone_failed ⟨fault, rfl⟩, fun _ => rfl⟩
  | ok descriptor =>
      obtain ⟨analysis, -, valid⟩ := validate_split rules result
      refine ⟨_, valid, ?_, ?_⟩
      · apply alone_passed
        · rintro ⟨fault, ⟨⟩⟩
        · intro violation given
          exact kind_not_parse_error _ ((violations_behind descriptor analysis).known rules violation given)
      · rintro ⟨fault, ⟨⟩⟩

end Component

end PatternInspector

namespace PatternInspector.Server

open PatternInspector.Inspection (FileEntry Service)

section Groups

/-- The labels in order of first appearance, each with the number of its occurrences. -/
def labelCounts (labels : List String) : List (String × Nat) :=
  labels.eraseDups.map fun label => (label, labels.count label)

/-- A value shows the number of occurrences of each label, and the numbers have that sum. -/
structure Groups (labels : List String) (total : Nat) (value : Option Value) : Prop where
  counts : value = some (countsValue id (labelCounts labels))
  total : ((labelCounts labels).map Prod.snd).sum = total

theorem tally_groups {α : Type} [DecidableEq α] {label : α → String} (injective : label.Injective)
    (entries : List α) :
    Groups (entries.map label) entries.length (some (countsValue label (tally entries))) := by
  have counted : labelCounts (entries.map label) = (tally entries).map (Prod.map label id) := by
    rw [← tally_map injective, tally_counts]
    rfl
  constructor
  · rw [counted, countsValue, countsValue, List.map_map]
    rfl
  · rw [labelCounts, ← tally_counts, total_tally, List.length_map]

end Groups

section Answers

structure TypeScriptTotals (failed : Prop) (report : TypeScript.Report) (answer : Value) : Prop where
  violations : answer.descend ["violations"] =
    some (.items (report.violations.map TypeScript.Violation.toValue))
  errors : answer.descend ["error_count"] = some (.nat (report.count .error))
  warnings : answer.descend ["warning_count"] = some (.nat (report.count .warning))
  infos : answer.descend ["info_count"] = some (.nat (report.count .info))
  total : report.count .error + report.count .warning + report.count .info =
    report.violations.length
  failure : FailsAlone failed (report.violations.map (·.rule))

theorem typescript_totals (rules : TypeScript.Rules) (filename : String) (code : Text)
    (outcome : Except Syntax.Fault Syntax.Node) :
    TypeScriptTotals (∃ fault, outcome = .error fault)
      (TypeScript.reportOnTree rules filename code outcome)
      (typescriptAnswer (TypeScript.reportOnTree rules filename code outcome)) where
  violations := rfl
  errors := rfl
  warnings := rfl
  infos := rfl
  total := TypeScript.severities_add_up _
  failure := TypeScript.tree_fails_alone rules filename code outcome

def javaLabels (report : Java.Report) : List String :=
  report.violations.filterMap fun violation => violation.category.map Java.Category.label

structure JavaTotals (failed : Prop) (report : Java.Report) (answer : Value) : Prop where
  violations : answer.descend ["violations"] =
    some (.items (report.violations.map Java.Violation.toValue))
  patterns : answer.descend ["pattern_count"] = some (.nat report.detections.length)
  categories : Groups (javaLabels report) report.detections.length (answer.descend ["by_category"])
  failure : FailsAlone failed (report.violations.map (·.rule))
  idle : failed → report.detections = [] ∧ answer.descend ["rules_evaluated"] = some (.nat 0)

theorem java_categories (rules : Java.Rules) (filename : String)
    (outcome : Except Syntax.Fault Syntax.Node) :
    (Java.reportOnTree rules filename outcome).violations.filterMap (·.category) =
      (Java.reportOnTree rules filename outcome).detections.map (·.category) := by
  cases outcome with
  | error fault => rfl
  | ok root =>
      change ((Java.detect rules (Java.classes root)).map (Java.violationOf rules)).filterMap
        (·.category) = (Java.detect rules (Java.classes root)).map (·.category)
      rw [List.filterMap_map]
      exact congrFun List.filterMap_eq_map _

theorem java_groups (rules : Java.Rules) (filename : String)
    (outcome : Except Syntax.Fault Syntax.Node) :
    let report := Java.reportOnTree rules filename outcome
    Groups (javaLabels report) report.detections.length
      ((javaAnswer report).descend ["by_category"]) := by
  intro report
  have categories : report.violations.filterMap (·.category) = report.detections.map (·.category) :=
    java_categories rules filename outcome
  have labels : javaLabels report =
      (report.violations.filterMap (·.category)).map Java.Category.label :=
    List.map_filterMap.symm
  have counts : (javaAnswer report).descend ["by_category"] = some (countsValue Java.Category.label
      (tally (report.violations.filterMap (·.category)))) := by
    change some (countsValue Java.Category.label
      (tally ((report.violations.map (·.category)).filterMap id))) = _
    rw [List.filterMap_map]
    rfl
  have size : report.detections.length = (report.violations.filterMap (·.category)).length := by
    rw [categories, List.length_map]
  rw [labels, counts, size]
  exact tally_groups Java.category_label_injective _

theorem java_idle (rules : Java.Rules) (filename : String)
    {outcome : Except Syntax.Fault Syntax.Node} (failed : ∃ fault, outcome = .error fault) :
    (Java.reportOnTree rules filename outcome).detections = [] ∧
      (Java.reportOnTree rules filename outcome).rulesEvaluated = 0 := by
  obtain ⟨fault, rfl⟩ := failed
  exact ⟨rfl, rfl⟩

theorem java_totals (rules : Java.Rules) (filename : String)
    (outcome : Except Syntax.Fault Syntax.Node) :
    JavaTotals (∃ fault, outcome = .error fault) (Java.reportOnTree rules filename outcome)
      (javaAnswer (Java.reportOnTree rules filename outcome)) := by
  constructor
  · rfl
  · rfl
  · exact java_groups rules filename outcome
  · exact Java.tree_fails_alone rules filename outcome
  · intro failed
    obtain ⟨undetected, unevaluated⟩ := java_idle rules filename failed
    exact ⟨undetected, congrArg (some ∘ Value.nat) unevaluated⟩

def vueLabels (report : Component.Report) : List String :=
  report.detections.map (·.category.label) ++ report.violations.map (·.category.label)

structure VueTotals (failed : Prop) (report : Component.Report) (answer : Value) : Prop where
  detections : answer.descend ["detections"] =
    some (.items (report.detections.map Component.Detection.toValue))
  violations : answer.descend ["violations"] =
    some (.items (report.violations.map Component.Violation.toValue))
  categories : Groups (vueLabels report) (report.detections.length + report.violations.length)
    (answer.descend ["by_category"])
  failure : FailsAlone failed (report.violations.map (·.rule))
  idle : failed → report.detections = []

theorem vue_groups (report : Component.Report) :
    Groups (vueLabels report) (report.detections.length + report.violations.length)
      ((vueAnswer report).descend ["by_category"]) := by
  have labels : vueLabels report = (vueCategories report).map Component.Category.label := by
    simp [vueLabels, vueCategories, Function.comp_def]
  have size : report.detections.length + report.violations.length =
      (vueCategories report).length := by
    simp [vueCategories]
  rw [labels, size]
  exact tally_groups Component.category_label_injective _

theorem vue_totals (rules : Component.Rules) (code : Text) (filename : String) :
    ∃ report, Component.validate rules code filename = .ok report ∧
      VueTotals (∃ fault, Component.split code filename = .error fault) report
        (vueAnswer report) := by
  obtain ⟨report, valid, failure, idle⟩ := Component.validate_fails_alone rules code filename
  exact ⟨report, valid, rfl, rfl, vue_groups report, failure, idle⟩

end Answers

section Calls

def codeArguments (code filename : String) : Value :=
  .object [("code", .string code), ("filename", .string filename)]

theorem check_code_arguments (default code filename : String) :
    (checkCode default (codeArguments code filename)).toExcept =
      .ok ⟨code.toList, filename⟩ := rfl

def codeTool : FileEntry → Tool
  | .typescript => .validateCode
  | .java => .validateJavaCode
  | .vue => .validateVueCode

theorem code_tool_answers (entry : FileEntry) (service : Service) (files : Surroundings)
    (code filename : String) :
    (codeTool entry).call service files (codeArguments code filename) =
      answer reportAnswer (entry.onCode service code.toList (some filename)) := by
  cases entry with
  | typescript => rfl
  | java =>
      simp only [codeTool, Tool.call, withArguments, check_code_arguments, FileEntry.onCode,
        answer_map, reportAnswer]
  | vue =>
      simp only [codeTool, Tool.call, withArguments, check_code_arguments, FileEntry.onCode,
        answer_map, reportAnswer]

/-- The totals in every answer on a text agree with its report, whatever the rules, and whatever parsing
the text comes to. -/
theorem reports_add_up (service : Service) (files : Surroundings) (code filename : String) :
    (let name := Service.nameOr TypeScript.defaultFilename (some filename)
      let report := TypeScript.reportOnTree service.typescript name code.toList
      Tool.validateCode.call service files (codeArguments code filename) = some (typescriptAnswer
          (report (TypeScript.parse (TypeScript.dialectOf name) code.toList))) ∧
        ∀ outcome, TypeScriptTotals (∃ fault, outcome = .error fault) (report outcome)
          (typescriptAnswer (report outcome))) ∧
    (∀ rules : Java.Rules,
      let report := Java.reportOnTree rules (Service.nameOr Java.defaultFilename (some filename))
      Tool.validateJavaCode.call { service with java := some rules } files
          (codeArguments code filename) = some (javaAnswer (report (Java.parse code.toList))) ∧
        ∀ outcome, JavaTotals (∃ fault, outcome = .error fault) (report outcome)
          (javaAnswer (report outcome))) ∧
    ∀ rules : Component.Rules,
      let name := Service.nameOr Component.defaultFilename (some filename)
      ∃ report, Component.validate rules code.toList name = .ok report ∧
        Tool.validateVueCode.call { service with vue := some rules } files
          (codeArguments code filename) = some (vueAnswer report) ∧
        VueTotals (∃ fault, Component.split code.toList name = .error fault) report
          (vueAnswer report) := by
  split_ands
  · exact code_tool_answers .typescript service files code filename
  · exact typescript_totals service.typescript _ code.toList
  · intro rules
    constructor
    · exact code_tool_answers .java _ files code filename
    · exact java_totals rules _
  · intro rules
    obtain ⟨report, valid, totals⟩ := vue_totals rules code.toList
      (Service.nameOr Component.defaultFilename (some filename))
    refine ⟨report, valid, ?_, totals⟩
    have inspected : FileEntry.vue.onCode { service with vue := some rules } code.toList
        (some filename) = .ok (.vue report) := by
      change (Service.inspectComponent rules _ _).map Service.Report.vue = _
      rw [Service.inspectComponent, valid]
      rfl
    exact (code_tool_answers .vue _ files code filename).trans (congrArg _ inspected)

end Calls

end PatternInspector.Server
