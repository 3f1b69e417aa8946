import PatternInspector.Java.Rule.Architectural
import PatternInspector.Java.Rule.Behavioral
import PatternInspector.Java.Rule.Creational
import PatternInspector.Java.Rule.Enterprise
import PatternInspector.Java.Rule.Modern
import PatternInspector.Java.Rule.Structural
import PatternInspector.Java.Rules

/-!
Detection of patterns in a list of classes: all rules, and what those of them find that are switched on.
-/
namespace PatternInspector.Java

/-- All rules, in the order in which their detections are reported. -/
def Rule.all : List Rule :=
  creationalRules ++ structuralRules ++ behavioralRules ++ enterpriseRules ++ architecturalRules ++
    modernRules

def Pattern.all : List Pattern := Rule.all.map Rule.pattern

namespace Rules

def ofRule (rules : Rules) (rule : Rule) : PatternRule := rules.ruleFor rule.category rule.pattern

def enabledCount (rules : Rules) : Nat := Rule.all.countP fun rule => (rules.ofRule rule).enabled

end Rules

/-- The detections of the rules that are switched on, rule by rule. -/
def detect (rules : Rules) (classes : List ClassModel) : List Detection :=
  Rule.all.flatMap fun rule =>
    let setting := rules.ofRule rule
    if setting.enabled then rule.evaluate classes setting.detectAntipatterns else []

end PatternInspector.Java
