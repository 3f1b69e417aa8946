import PatternInspector.Config.Check

/-!
Switches and limits of the component checks, with their defaults.
-/
namespace PatternInspector.Component

structure ComposableRules where
  enabled : Bool := true
  enforceNaming : Bool := true
  enforceReturnReactive : Bool := true
  deriving DecidableEq

structure ComponentRules where
  enabled : Bool := true
  enforceSmartDumb : Bool := true
  maxComponentSize : Nat := 300
  deriving DecidableEq

structure AntiPatternRules where
  enabled : Bool := true
  severity : Severity := .warning
  detectMixins : Bool := true
  detectVIfVFor : Bool := true
  detectPropMutation : Bool := true
  detectParentAccess : Bool := true
  deriving DecidableEq

structure BestPracticeRules where
  enabled : Bool := true
  severity : Severity := .info
  enforcePropValidation : Bool := true
  enforceEventNaming : Bool := true
  enforceScriptSetup : Bool := true
  deriving DecidableEq

structure TemplateRules where
  enabled : Bool := true
  severity : Severity := .warning
  enforceVForKey : Bool := true
  deriving DecidableEq

structure Rules where
  composables : ComposableRules := {}
  components : ComponentRules := {}
  antiPatterns : AntiPatternRules := {}
  bestPractices : BestPracticeRules := {}
  template : TemplateRules := {}
  deriving DecidableEq

namespace Rules

section Encoding

def composablesValue (rules : ComposableRules) : Value := .object [
  ("enabled", .bool rules.enabled),
  ("enforce_naming", .bool rules.enforceNaming),
  ("enforce_return_reactive", .bool rules.enforceReturnReactive)]

def componentsValue (rules : ComponentRules) : Value := .object [
  ("enabled", .bool rules.enabled),
  ("enforce_smart_dumb", .bool rules.enforceSmartDumb),
  ("max_component_size", .nat rules.maxComponentSize)]

def antiPatternsValue (rules : AntiPatternRules) : Value := .object [
  ("enabled", .bool rules.enabled),
  ("severity", rules.severity.toValue),
  ("detect_mixins", .bool rules.detectMixins),
  ("detect_v_if_v_for", .bool rules.detectVIfVFor),
  ("detect_prop_mutation", .bool rules.detectPropMutation),
  ("detect_parent_access", .bool rules.detectParentAccess)]

def bestPracticesValue (rules : BestPracticeRules) : Value := .object [
  ("enabled", .bool rules.enabled),
  ("severity", rules.severity.toValue),
  ("enforce_prop_validation", .bool rules.enforcePropValidation),
  ("enforce_event_naming", .bool rules.enforceEventNaming),
  ("enforce_script_setup", .bool rules.enforceScriptSetup)]

def templateValue (rules : TemplateRules) : Value := .object [
  ("enabled", .bool rules.enabled),
  ("severity", rules.severity.toValue),
  ("enforce_v_for_key", .bool rules.enforceVForKey)]

def sectionsValue (rules : Rules) : Value := .object [
  ("composables", composablesValue rules.composables),
  ("components", componentsValue rules.components),
  ("anti_patterns", antiPatternsValue rules.antiPatterns),
  ("best_practices", bestPracticesValue rules.bestPractices),
  ("template", templateValue rules.template)]

def toValue (rules : Rules) : Value := .object [("rules", sectionsValue rules)]

end Encoding

section Checking

open Config (Checked Entries field record checkBool checkPositive checkSeverity)

def checkComposables : ComposableRules → Value → Checked ComposableRules :=
  record ["enabled", "enforce_naming", "enforce_return_reactive"] fun default entries => do
    let enabled ← field entries "enabled" default.enabled checkBool
    let enforceNaming ← field entries "enforce_naming" default.enforceNaming checkBool
    let enforceReturnReactive ←
      field entries "enforce_return_reactive" default.enforceReturnReactive checkBool
    return { enabled, enforceNaming, enforceReturnReactive }

def checkComponents : ComponentRules → Value → Checked ComponentRules :=
  record ["enabled", "enforce_smart_dumb", "max_component_size"] fun default entries => do
    let enabled ← field entries "enabled" default.enabled checkBool
    let enforceSmartDumb ← field entries "enforce_smart_dumb" default.enforceSmartDumb checkBool
    let maxComponentSize ← field entries "max_component_size" default.maxComponentSize checkPositive
    return { enabled, enforceSmartDumb, maxComponentSize }

def checkAntiPatternRules : AntiPatternRules → Value → Checked AntiPatternRules :=
  record ["enabled", "severity", "detect_mixins", "detect_v_if_v_for", "detect_prop_mutation",
      "detect_parent_access"] fun default entries => do
    let enabled ← field entries "enabled" default.enabled checkBool
    let severity ← field entries "severity" default.severity checkSeverity
    let detectMixins ← field entries "detect_mixins" default.detectMixins checkBool
    let detectVIfVFor ← field entries "detect_v_if_v_for" default.detectVIfVFor checkBool
    let detectPropMutation ←
      field entries "detect_prop_mutation" default.detectPropMutation checkBool
    let detectParentAccess ←
      field entries "detect_parent_access" default.detectParentAccess checkBool
    return { enabled, severity, detectMixins, detectVIfVFor, detectPropMutation, detectParentAccess }

def checkBestPracticeRules : BestPracticeRules → Value → Checked BestPracticeRules :=
  record ["enabled", "severity", "enforce_prop_validation", "enforce_event_naming",
      "enforce_script_setup"] fun default entries => do
    let enabled ← field entries "enabled" default.enabled checkBool
    let severity ← field entries "severity" default.severity checkSeverity
    let enforcePropValidation ←
      field entries "enforce_prop_validation" default.enforcePropValidation checkBool
    let enforceEventNaming ←
      field entries "enforce_event_naming" default.enforceEventNaming checkBool
    let enforceScriptSetup ←
      field entries "enforce_script_setup" default.enforceScriptSetup checkBool
    return { enabled, severity, enforcePropValidation, enforceEventNaming, enforceScriptSetup }

def checkTemplateRules : TemplateRules → Value → Checked TemplateRules :=
  record ["enabled", "severity", "enforce_v_for_key"] fun default entries => do
    let enabled ← field entries "enabled" default.enabled checkBool
    let severity ← field entries "severity" default.severity checkSeverity
    let enforceVForKey ← field entries "enforce_v_for_key" default.enforceVForKey checkBool
    return { enabled, severity, enforceVForKey }

def checkSections : Rules → Value → Checked Rules :=
  record ["composables", "components", "anti_patterns", "best_practices", "template"]
    fun default entries => do
      let composables ← field entries "composables" default.composables checkComposables
      let components ← field entries "components" default.components checkComponents
      let antiPatterns ← field entries "anti_patterns" default.antiPatterns checkAntiPatternRules
      let bestPractices ←
        field entries "best_practices" default.bestPractices checkBestPracticeRules
      let template ← field entries "template" default.template checkTemplateRules
      return { composables, components, antiPatterns, bestPractices, template }

/-- Reads rules from data; what the data leaves out has its default. -/
def check (data : Value) : Checked Rules :=
  record ["rules"] (fun default entries => field entries "rules" default checkSections) {} data

end Checking

/-- Whether the section of that name is switched on; none if there is no such section. -/
def sectionEnabled? (rules : Rules) (name : String) : Option Bool :=
  match name with
  | "composables" => some rules.composables.enabled
  | "components" => some rules.components.enabled
  | "anti_patterns" => some rules.antiPatterns.enabled
  | "best_practices" => some rules.bestPractices.enabled
  | "template" => some rules.template.enabled
  | _ => none

end Rules

end PatternInspector.Component
