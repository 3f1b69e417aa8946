import PatternInspector.Inspection.Service

/-!
Catalogues of what the inspector finds, joined with the rules in force. The catalogue files are read
anew for each question.
-/
namespace PatternInspector.Inspection

open PatternInspector.Config (loadCatalog)

section Shapes

def entriesOf : Value → Except Failure (List (Value × Value))
  | .mapping _ entries => .ok entries
  | _ => .error (.shape .notAMapping)

/-- The items of a list, the keys of a mapping or the characters of a text. -/
def itemsOf : Value → Except Failure (List Value)
  | .list _ items => .ok items
  | .mapping _ entries => .ok (entries.map (·.1))
  | .string text => .ok (text.toList.map fun c => .string (String.singleton c))
  | _ => .error (.shape .notAList)

def catalogSection (config : Files.Tree) (file key : String) (default : Value) :
    Except Failure Value := do
  match loadCatalog config file with
  | .error fault => throw (.configuration fault)
  | .ok catalog => return (Value.lookup key (← entriesOf catalog)).getD default

end Shapes

namespace Service

section Rules

def listTypeScriptRules (service : Service) : Value := service.typescript.toValue

end Rules

section Java

def javaEntry (rules : Java.Rules) (catalog : Value) (rule : Java.Rule) :
    Except Failure Value := do
  let label := rule.pattern.label
  let entry := (Value.lookup label (← entriesOf catalog)).getD (.mapping none [])
  let fields ← entriesOf entry
  let setting := rules.ofRule rule
  return .object [
    ("pattern", .string label),
    ("name", (Value.lookup "name" fields).getD (.string label)),
    ("category", .string rule.category.label),
    ("description", (Value.lookup "description" fields).getD (.string "")),
    ("enabled", .bool setting.enabled),
    ("severity", setting.severity.toValue),
    ("detect_antipatterns", .bool setting.detectAntipatterns)]

def listJavaPatterns (service : Service) (config : Files.Tree) : Except Failure (List Value) := do
  let rules ← service.javaRules
  let catalog ← catalogSection config "java-patterns.yaml" "patterns" (.mapping none [])
  Java.Rule.all.mapM (javaEntry rules catalog)

end Java

section Vue

/-- Whether the section that an entry names is switched on; an entry without one always is. -/
def isSectionEnabled (rules : Component.Rules) (name : Value) : Except Failure Bool :=
  if name.isEmpty then .ok true
  else
    match name with
    | .string name => .ok ((rules.sectionEnabled? name).getD true)
    | _ => .error (.shape .notAList)

/-- The fields with another value under a key, at the end if the key is new. -/
def setField (key : String) (value : Value) : List (Value × Value) → List (Value × Value)
  | [] => [(.string key, value)]
  | (known, old) :: rest =>
      if Value.isString key known then (known, value) :: rest
      else (known, old) :: setField key value rest

def vueEntry (rules : Component.Rules) (entry : Value) : Except Failure Value := do
  let fields ← entriesOf entry
  let enabled ← isSectionEnabled rules ((Value.lookup "section" fields).getD .null)
  return .mapping none (setField "enabled" (.bool enabled) fields)

/-- Every entry of the catalogue for components, with the state of its section. -/
def listVuePatterns (service : Service) (config : Files.Tree) : Except Failure (List Value) := do
  let rules ← service.vueRules
  let catalog ← catalogSection config "vue-patterns.yaml" "patterns" (.items [])
  (← itemsOf catalog).mapM (vueEntry rules)

end Vue

section Violations

def hasSeverity (severity : String) (entry : Value) : Except Failure Bool := do
  return ((Value.lookup "severity" (← entriesOf entry)).map (Value.isString severity)).getD false

/-- What the violations mean, all of them or those of one severity. -/
def violationGuide (config : Files.Tree) (severity : Option String) :
    Except Failure (List Value) := do
  let guide ← itemsOf (← catalogSection config "violation-guide.yaml" "violations" (.items []))
  match severity with
  | none => return guide
  | some wanted => guide.filterM (hasSeverity wanted)

end Violations

end Service

end PatternInspector.Inspection
