import PatternInspector.Component.Rules
import PatternInspector.Proofs.Config.Conformance

/-!
The configuration of the component checks: its schema with every default, and the tables that its
check follows.
-/
namespace PatternInspector.Component.Rules

open Config (Schema Column Conforms Validates)

def schema : Schema := .record [("rules", .record [
  ("composables", .record [
    ("enabled", .switch true),
    ("enforce_naming", .switch true),
    ("enforce_return_reactive", .switch true)]),
  ("components", .record [
    ("enabled", .switch true),
    ("enforce_smart_dumb", .switch true),
    ("max_component_size", .threshold 300 (by decide))]),
  ("anti_patterns", .record [
    ("enabled", .switch true),
    ("severity", .severity .warning),
    ("detect_mixins", .switch true),
    ("detect_v_if_v_for", .switch true),
    ("detect_prop_mutation", .switch true),
    ("detect_parent_access", .switch true)]),
  ("best_practices", .record [
    ("enabled", .switch true),
    ("severity", .severity .info),
    ("enforce_prop_validation", .switch true),
    ("enforce_event_naming", .switch true),
    ("enforce_script_setup", .switch true)]),
  ("template", .record [
    ("enabled", .switch true),
    ("severity", .severity .warning),
    ("enforce_v_for_key", .switch true)])])]

section Columns

def composablesColumn : Column :=
  .table "composables" {} checkComposables composablesValue
    [.switch "enabled" true, .switch "enforce_naming" true, .switch "enforce_return_reactive" true]
    (by decide) rfl fun data => by cases data <;> rfl

def componentsColumn : Column :=
  .table "components" {} checkComponents componentsValue
    [.switch "enabled" true, .switch "enforce_smart_dumb" true,
      .threshold "max_component_size" 300 (by decide)]
    (by decide) rfl fun data => by cases data <;> rfl

def antiPatternsColumn : Column :=
  .table "anti_patterns" {} checkAntiPatternRules antiPatternsValue
    [.switch "enabled" true, .severity "severity" .warning, .switch "detect_mixins" true,
      .switch "detect_v_if_v_for" true, .switch "detect_prop_mutation" true,
      .switch "detect_parent_access" true]
    (by decide) rfl fun data => by cases data <;> rfl

def bestPracticesColumn : Column :=
  .table "best_practices" {} checkBestPracticeRules bestPracticesValue
    [.switch "enabled" true, .severity "severity" .info, .switch "enforce_prop_validation" true,
      .switch "enforce_event_naming" true, .switch "enforce_script_setup" true]
    (by decide) rfl fun data => by cases data <;> rfl

def templateColumn : Column :=
  .table "template" {} checkTemplateRules templateValue
    [.switch "enabled" true, .severity "severity" .warning, .switch "enforce_v_for_key" true]
    (by decide) rfl fun data => by cases data <;> rfl

def sectionsColumn : Column :=
  .table "rules" {} checkSections sectionsValue
    [composablesColumn, componentsColumn, antiPatternsColumn, bestPracticesColumn, templateColumn]
    (by decide) rfl fun data => by cases data <;> rfl

end Columns

theorem check_conforms :
    Conforms schema (toValue {}) fun data => (check data).dumped toValue :=
  Config.conforms_root sectionsColumn

theorem to_value_injective (first second : Rules) (same : first.toValue = second.toValue) :
    first = second := by
  obtain ⟨⟨_, _, _⟩, ⟨_, _, _⟩, ⟨_, _, _, _, _, _⟩, ⟨_, _, _, _, _⟩, ⟨_, _, _⟩⟩ := first
  obtain ⟨⟨_, _, _⟩, ⟨_, _, _⟩, ⟨_, _, _, _, _, _⟩, ⟨_, _, _, _, _⟩, ⟨_, _, _⟩⟩ := second
  simp only [toValue, sectionsValue, composablesValue, componentsValue, antiPatternsValue,
    bestPracticesValue, templateValue, Config.object_inj, List.cons.injEq, Prod.mk.injEq, true_and, and_true,
    Config.severity_value_inj, Value.bool.injEq, Config.nat_inj] at same
  simp only [same]

theorem check_validates : Validates schema check toValue :=
  Config.conforms_validates check_conforms to_value_injective

end PatternInspector.Component.Rules
