import PatternInspector.Config.Check
import PatternInspector.TypeScript.Naming

/-!
Switches and limits of the style checks, with their defaults.
-/
namespace PatternInspector.TypeScript

/-- The style of each kind of name. Methods are named like functions. -/
structure NamingPatterns where
  classes : NamingStyle := .pascalCase
  functions : NamingStyle := .camelCase
  constants : NamingStyle := .upperCase
  bindings : NamingStyle := .camelCase
  deriving DecidableEq

structure NamingRules where
  enabled : Bool := true
  severity : Severity := .warning
  patterns : NamingPatterns := {}
  deriving DecidableEq

structure SolidRules where
  enabled : Bool := true
  severity : Severity := .warning
  maxFunctionLines : Nat := 50
  maxClassMethods : Nat := 10
  maxParameters : Nat := 5
  deriving DecidableEq

structure CodeSmellRules where
  enabled : Bool := true
  severity : Severity := .warning
  detectDuplication : Bool := true
  detectLongMethods : Bool := true
  detectGodClasses : Bool := true
  detectDeadCode : Bool := true
  deriving DecidableEq

structure Rules where
  naming : NamingRules := {}
  solid : SolidRules := {}
  codeSmells : CodeSmellRules := {}
  deriving DecidableEq

namespace Rules

section Encoding

def patternsValue (patterns : NamingPatterns) : Value := .object [
  ("classes", patterns.classes.toValue),
  ("functions", patterns.functions.toValue),
  ("constants", patterns.constants.toValue),
  ("variables", patterns.bindings.toValue)]

def namingValue (naming : NamingRules) : Value := .object [
  ("enabled", .bool naming.enabled),
  ("severity", naming.severity.toValue),
  ("patterns", patternsValue naming.patterns)]

def solidValue (solid : SolidRules) : Value := .object [
  ("enabled", .bool solid.enabled),
  ("severity", solid.severity.toValue),
  ("max_function_lines", .nat solid.maxFunctionLines),
  ("max_class_methods", .nat solid.maxClassMethods),
  ("max_parameters", .nat solid.maxParameters)]

def codeSmellsValue (smells : CodeSmellRules) : Value := .object [
  ("enabled", .bool smells.enabled),
  ("severity", smells.severity.toValue),
  ("detect_duplication", .bool smells.detectDuplication),
  ("detect_long_methods", .bool smells.detectLongMethods),
  ("detect_god_classes", .bool smells.detectGodClasses),
  ("detect_dead_code", .bool smells.detectDeadCode)]

def sectionsValue (rules : Rules) : Value := .object [
  ("naming", namingValue rules.naming),
  ("solid", solidValue rules.solid),
  ("code_smells", codeSmellsValue rules.codeSmells)]

def toValue (rules : Rules) : Value := .object [("rules", sectionsValue rules)]

end Encoding

section Checking

open Config (Checked field record checkBool checkPositive checkSeverity checkChoice)

def checkStyle (fallback : NamingStyle) : Value → Checked NamingStyle :=
  checkChoice NamingStyle.ofLabel? fallback

def checkPatterns : NamingPatterns → Value → Checked NamingPatterns :=
  record ["classes", "functions", "constants", "variables"] fun default entries => do
    let classes ← field entries "classes" default.classes checkStyle
    let functions ← field entries "functions" default.functions checkStyle
    let constants ← field entries "constants" default.constants checkStyle
    let bindings ← field entries "variables" default.bindings checkStyle
    return { classes, functions, constants, bindings }

def checkNaming : NamingRules → Value → Checked NamingRules :=
  record ["enabled", "severity", "patterns"] fun default entries => do
    let enabled ← field entries "enabled" default.enabled checkBool
    let severity ← field entries "severity" default.severity checkSeverity
    let patterns ← field entries "patterns" default.patterns checkPatterns
    return { enabled, severity, patterns }

def checkSolid : SolidRules → Value → Checked SolidRules :=
  record ["enabled", "severity", "max_function_lines", "max_class_methods", "max_parameters"]
    fun default entries => do
      let enabled ← field entries "enabled" default.enabled checkBool
      let severity ← field entries "severity" default.severity checkSeverity
      let maxFunctionLines ←
        field entries "max_function_lines" default.maxFunctionLines checkPositive
      let maxClassMethods ← field entries "max_class_methods" default.maxClassMethods checkPositive
      let maxParameters ← field entries "max_parameters" default.maxParameters checkPositive
      return { enabled, severity, maxFunctionLines, maxClassMethods, maxParameters }

def checkCodeSmells : CodeSmellRules → Value → Checked CodeSmellRules :=
  record ["enabled", "severity", "detect_duplication", "detect_long_methods", "detect_god_classes",
      "detect_dead_code"] fun default entries => do
    let enabled ← field entries "enabled" default.enabled checkBool
    let severity ← field entries "severity" default.severity checkSeverity
    let detectDuplication ← field entries "detect_duplication" default.detectDuplication checkBool
    let detectLongMethods ← field entries "detect_long_methods" default.detectLongMethods checkBool
    let detectGodClasses ← field entries "detect_god_classes" default.detectGodClasses checkBool
    let detectDeadCode ← field entries "detect_dead_code" default.detectDeadCode checkBool
    return {
      enabled, severity, detectDuplication, detectLongMethods, detectGodClasses, detectDeadCode }

def checkSections : Rules → Value → Checked Rules :=
  record ["naming", "solid", "code_smells"] fun default entries => do
    let naming ← field entries "naming" default.naming checkNaming
    let solid ← field entries "solid" default.solid checkSolid
    let codeSmells ← field entries "code_smells" default.codeSmells checkCodeSmells
    return { naming, solid, codeSmells }

/-- Reads rules from data; what the data leaves out has its default. -/
def check (data : Value) : Checked Rules :=
  record ["rules"] (fun default entries => field entries "rules" default checkSections) {} data

end Checking

/-- Whether the section of that name is switched on; none if there is no such section. -/
def sectionEnabled? (rules : Rules) (name : String) : Option Bool :=
  match name with
  | "naming" => some rules.naming.enabled
  | "solid" => some rules.solid.enabled
  | "code_smells" => some rules.codeSmells.enabled
  | _ => none

end Rules

end PatternInspector.TypeScript
