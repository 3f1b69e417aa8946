import PatternInspector.Component.Report
import PatternInspector.Inspection.Failure
import PatternInspector.Java.Parse
import PatternInspector.TypeScript.Parse

/-!
The inspector of a configuration: the rules of each language, and reports on code and files under
these rules.

Rules for TypeScript have defaults, so a missing file is no obstacle, but a faulty one is. Java and
Vue are inspected only if their rules can be read; a missing or faulty file switches its language
off and nothing else.
-/
namespace PatternInspector.Inspection

open PatternInspector.Config (LoadFault LoadFaultOf Reader checkDocument loadRulesBy)

section Building

structure Service where
  typescript : TypeScript.Rules := {}
  java : Option Java.Rules := none
  vue : Option Component.Rules := none

def typescriptRulesFile : String := "typescript.yaml"

variable {Data Fault : Type}

def rulesOrDefault {α : Type} (default : α) :
    Except (LoadFaultOf Fault) α → Except (LoadFaultOf Fault) α
  | .error (.missing _) => .ok default
  | loaded => loaded

/-- The rules of a language that is switched off without them. -/
def rulesIfValid {α : Type} :
    Except (LoadFaultOf Fault) α → Except (LoadFaultOf Fault) (Option α)
  | .ok rules => .ok (some rules)
  | .error (.missing _) => .ok none
  | .error (.malformed _) => .ok none
  | .error (.invalid ..) => .ok none
  | .error fault => .error fault

structure RuleChecks (Data : Type) where
  typescript : Data → Except (List Config.Issue) TypeScript.Rules
  java : Data → Except (List Config.Issue) Java.Rules
  vue : Data → Except (List Config.Issue) Component.Rules

def ruleChecks : RuleChecks Value where
  typescript := checkDocument TypeScript.Rules.check
  java := checkDocument Java.Rules.check
  vue := checkDocument Component.Rules.check

/-- The inspector for a configuration directory whose files are read and checked in some way. -/
def Service.buildBy (reader : Reader Data Fault) (checks : RuleChecks Data)
    (config : Files.Tree) : Except (LoadFaultOf Fault) Service := do
  let typescript ←
    rulesOrDefault {} (loadRulesBy reader checks.typescript config typescriptRulesFile)
  let java ←
    rulesIfValid (loadRulesBy reader checks.java config OptionalLanguage.java.rulesFile)
  let vue ← rulesIfValid (loadRulesBy reader checks.vue config OptionalLanguage.vue.rulesFile)
  return { typescript, java, vue }

def Service.build (config : Files.Tree) : Except LoadFault Service :=
  Service.buildBy Config.yaml ruleChecks config

end Building

namespace Service

section Code

/-- A name for a text: the given one unless it is missing or empty. -/
def nameOr (default : String) (filename : Option String) : String :=
  match filename with
  | some name => if name.isEmpty then default else name
  | none => default

def javaRules (service : Service) : Except Failure Java.Rules :=
  match service.java with
  | some rules => .ok rules
  | none => .error (.unavailable .java)

def vueRules (service : Service) : Except Failure Component.Rules :=
  match service.vue with
  | some rules => .ok rules
  | none => .error (.unavailable .vue)

def inspectComponent (rules : Component.Rules) (code : Text) (filename : String) :
    Except Failure Component.Report :=
  match Component.validate rules code filename with
  | .ok report => .ok report
  | .error fault => .error (.scan fault)

def validateTypeScript (service : Service) (code : Text) (filename : Option String) :
    TypeScript.Report :=
  TypeScript.validate service.typescript code (nameOr TypeScript.defaultFilename filename)

def validateJava (service : Service) (code : Text) (filename : Option String) :
    Except Failure Java.Report := do
  return Java.validate (← service.javaRules) code (nameOr Java.defaultFilename filename)

def validateVue (service : Service) (code : Text) (filename : Option String) :
    Except Failure Component.Report := do
  inspectComponent (← service.vueRules) code (nameOr Component.defaultFilename filename)

end Code

section Languages

inductive Report where
  | typescript (report : TypeScript.Report)
  | java (report : Java.Report)
  | vue (report : Component.Report)

def Report.toValue : Report → Value
  | .typescript report => report.toValue
  | .java report => report.toValue
  | .vue report => report.toValue

/-- Names of TypeScript and of the languages that are inspected like it. -/
def typescriptNames : List String := ["typescript", "javascript", "ts", "js", "tsx", "jsx"]

/-- A report in the language of that name, in any letter case and with blanks around it. -/
def validate (service : Service) (language : String) (code : Text) (filename : Option String) :
    Except Failure Report :=
  let name := String.ofList (Text.lower (Text.strip language.toList))
  if typescriptNames.contains name then
    .ok (.typescript (service.validateTypeScript code filename))
  else if name == "java" then (service.validateJava code filename).map .java
  else if name == "vue" then (service.validateVue code filename).map .vue
  else .error (.unsupportedLanguage language)

end Languages

section Files

def readSource (sources : Files.Tree) (path : FilePath) : Except Failure Text :=
  match sources.readText path with
  | .ok text => .ok text
  | .error (.path fault) => .error (.unusablePath fault)
  | .error (.access fault) => .error (.unreadableFile path (Files.accessMessage path fault))
  | .error (.decoding fault) => .error (.unreadableFile path (Files.decodingMessage fault))

def validateTypeScriptFile (service : Service) (sources : Files.Tree) (path : FilePath) :
    Except Failure TypeScript.Report := do
  return service.validateTypeScript (← readSource sources path) (some path.display)

def validateJavaFile (service : Service) (sources : Files.Tree) (path : FilePath) :
    Except Failure Java.Report := do
  let rules ← service.javaRules
  return Java.validate rules (← readSource sources path) path.display

def markupFragments : List String := ["<template", "<script"]

def holdsMarkup (path : FilePath) : Bool :=
  markupFragments.any fun fragment => CodePoints.includes fragment path

def validateVueFile (service : Service) (sources : Files.Tree) (path : FilePath) :
    Except Failure Component.Report := do
  if holdsMarkup path then throw .contentAsPath
  let rules ← service.vueRules
  inspectComponent rules (← readSource sources path) path.display

end Files

end Service

end PatternInspector.Inspection
