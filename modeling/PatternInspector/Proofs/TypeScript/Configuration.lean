import PatternInspector.Proofs.Config.Conformance
import PatternInspector.TypeScript.Rules

/-!
The configuration of the style checks: its schema with every default, and the tables that its check
follows.
-/
namespace PatternInspector.TypeScript

open Config (Schema Column Conforms Validates)

theorem mem_styles (style : NamingStyle) : style ∈ NamingStyle.all := by
  cases style <;> decide

theorem style_value_inj {first second : NamingStyle} :
    first.toValue = second.toValue ↔ first = second := by
  cases first <;> cases second <;> simp [NamingStyle.toValue, NamingStyle.label]

namespace Rules

section Schemas

def styleSchema (default : NamingStyle) : Schema :=
  .choice NamingStyle.all NamingStyle.label default (mem_styles default)

def schema : Schema := .record [("rules", .record [
  ("naming", .record [
    ("enabled", .switch true),
    ("severity", .severity .warning),
    ("patterns", .record [
      ("classes", styleSchema .pascalCase),
      ("functions", styleSchema .camelCase),
      ("constants", styleSchema .upperCase),
      ("variables", styleSchema .camelCase)])]),
  ("solid", .record [
    ("enabled", .switch true),
    ("severity", .severity .warning),
    ("max_function_lines", .threshold 50 (by decide)),
    ("max_class_methods", .threshold 10 (by decide)),
    ("max_parameters", .threshold 5 (by decide))]),
  ("code_smells", .record [
    ("enabled", .switch true),
    ("severity", .severity .warning),
    ("detect_duplication", .switch true),
    ("detect_long_methods", .switch true),
    ("detect_god_classes", .switch true),
    ("detect_dead_code", .switch true)])])]

end Schemas

section Columns

def styleColumn (key : String) (default : NamingStyle) : Column :=
  .choice NamingStyle.all NamingStyle.label key default (mem_styles default)

def patternsColumn : Column :=
  .table "patterns" {} checkPatterns patternsValue
    [styleColumn "classes" .pascalCase, styleColumn "functions" .camelCase,
      styleColumn "constants" .upperCase, styleColumn "variables" .camelCase]
    (by decide) rfl fun data => by cases data <;> rfl

def namingColumn : Column :=
  .table "naming" {} checkNaming namingValue
    [.switch "enabled" true, .severity "severity" .warning, patternsColumn]
    (by decide) rfl fun data => by cases data <;> rfl

def solidColumn : Column :=
  .table "solid" {} checkSolid solidValue
    [.switch "enabled" true, .severity "severity" .warning,
      .threshold "max_function_lines" 50 (by decide), .threshold "max_class_methods" 10 (by decide),
      .threshold "max_parameters" 5 (by decide)]
    (by decide) rfl fun data => by cases data <;> rfl

def codeSmellsColumn : Column :=
  .table "code_smells" {} checkCodeSmells codeSmellsValue
    [.switch "enabled" true, .severity "severity" .warning, .switch "detect_duplication" true,
      .switch "detect_long_methods" true, .switch "detect_god_classes" true,
      .switch "detect_dead_code" true]
    (by decide) rfl fun data => by cases data <;> rfl

def sectionsColumn : Column :=
  .table "rules" {} checkSections sectionsValue [namingColumn, solidColumn, codeSmellsColumn]
    (by decide) rfl fun data => by cases data <;> rfl

end Columns

theorem check_conforms :
    Conforms schema (toValue {}) fun data => (check data).dumped toValue :=
  Config.conforms_root sectionsColumn

theorem to_value_injective (first second : Rules) (same : first.toValue = second.toValue) :
    first = second := by
  obtain ⟨⟨_, _, ⟨_, _, _, _⟩⟩, ⟨_, _, _, _, _⟩, ⟨_, _, _, _, _, _⟩⟩ := first
  obtain ⟨⟨_, _, ⟨_, _, _, _⟩⟩, ⟨_, _, _, _, _⟩, ⟨_, _, _, _, _, _⟩⟩ := second
  simp only [toValue, sectionsValue, namingValue, patternsValue, solidValue, codeSmellsValue,
    Config.object_inj, List.cons.injEq, Prod.mk.injEq, true_and, and_true,
    Config.severity_value_inj, style_value_inj, Value.bool.injEq, Config.nat_inj] at same
  simp only [same]

theorem check_validates : Validates schema check toValue :=
  Config.conforms_validates check_conforms to_value_injective

end Rules

end PatternInspector.TypeScript
