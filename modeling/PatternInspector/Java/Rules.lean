import PatternInspector.Config.Check
import PatternInspector.Java.Pattern

/-!
Which patterns are looked for, and how they are reported. A pattern that is not mentioned is not
looked for.
-/
namespace PatternInspector.Java

structure PatternRule where
  enabled : Bool := false
  severity : Severity := .info
  detectAntipatterns : Bool := false
  deriving DecidableEq

/-- The names under which the rules of a category are configured. -/
def Category.ruleNames : Category → List String
  | .creational => ["singleton", "builder", "factory_method", "abstract_factory", "prototype"]
  | .structural => ["adapter", "decorator", "facade", "proxy", "composite", "bridge", "flyweight"]
  | .behavioral => ["observer", "strategy", "template_method", "command", "state", "iterator",
      "chain_of_responsibility", "mediator", "memento", "visitor", "interpreter"]
  | .enterprise => ["dao", "repository", "dto", "service_layer", "value_object", "data_mapper",
      "active_record"]
  | .architectural => ["mvc", "front_controller", "business_delegate", "session_facade",
      "service_locator", "transfer_object_assembler", "composite_entity"]
  | .modern => ["dependency_injection", "circuit_breaker", "saga", "cqrs", "event_sourcing",
      "unit_of_work"]

/-- A place for the rule of a pattern in the configuration. -/
structure Slot where
  category : Category
  name : String
  known : name ∈ category.ruleNames
  deriving DecidableEq

namespace Slot

def ofCategory (category : Category) : List Slot :=
  category.ruleNames.attach.map fun name => ⟨category, name.1, name.2⟩

/-- The slot in a category that has the name of a pattern. -/
def find? (category : Category) (pattern : Pattern) : Option Slot :=
  if known : pattern.key ∈ category.ruleNames then some ⟨category, pattern.key, known⟩ else none

end Slot

structure Rules where
  rule : Slot → PatternRule := fun _ => {}

namespace Rules

def set (rules : Rules) (slot : Slot) (rule : PatternRule) : Rules :=
  ⟨fun other => if other = slot then rule else rules.rule other⟩

def everything : Rules :=
  ⟨fun _ => { enabled := true, severity := .info, detectAntipatterns := true }⟩

/-- The configured rule, looked up by category and by the name of the pattern. -/
def ruleFor? (rules : Rules) (category : Category) (pattern : Pattern) : Option PatternRule :=
  (Slot.find? category pattern).map rules.rule

/-- A pattern without a slot would be switched off; there is none. -/
def ruleFor (rules : Rules) (category : Category) (pattern : Pattern) : PatternRule :=
  (rules.ruleFor? category pattern).getD {}

section Encoding

def ruleValue (rule : PatternRule) : Value := .object [
  ("enabled", .bool rule.enabled),
  ("severity", rule.severity.toValue),
  ("detect_antipatterns", .bool rule.detectAntipatterns)]

def categoryValue (rules : Rules) (category : Category) : Value :=
  .object ((Slot.ofCategory category).map fun slot => (slot.name, ruleValue (rules.rule slot)))

def categoriesValue (rules : Rules) : Value :=
  .object (Category.all.map fun category => (category.label, categoryValue rules category))

def toValue (rules : Rules) : Value := .object [("rules", categoriesValue rules)]

end Encoding

section Checking

open Config (Checked field record checkBool checkSeverity)

def checkRule : PatternRule → Value → Checked PatternRule :=
  record ["enabled", "severity", "detect_antipatterns"] fun default entries => do
    let enabled ← field entries "enabled" default.enabled checkBool
    let severity ← field entries "severity" default.severity checkSeverity
    let detectAntipatterns ←
      field entries "detect_antipatterns" default.detectAntipatterns checkBool
    return { enabled, severity, detectAntipatterns }

def checkSlot (entries : Config.Entries) (rules : Rules) (slot : Slot) : Checked Rules := do
  let rule ← field entries slot.name (rules.rule slot) checkRule
  return rules.set slot rule

def checkCategory (category : Category) : Rules → Value → Checked Rules :=
  record category.ruleNames fun default entries =>
    (Slot.ofCategory category).foldlM (checkSlot entries) default

def checkCategories : Rules → Value → Checked Rules :=
  record (Category.all.map Category.label) fun default entries =>
    Category.all.foldlM
      (fun rules category => field entries category.label rules (checkCategory category)) default

def check (data : Value) : Checked Rules :=
  record ["rules"] (fun default entries => field entries "rules" default checkCategories) {} data

end Checking

end Rules

end PatternInspector.Java
