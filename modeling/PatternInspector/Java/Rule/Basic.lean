import PatternInspector.Finding.Severity
import PatternInspector.Java.ClassModel
import PatternInspector.Java.Pattern
import PatternInspector.Text.Case

/-!
What a detection says, how rules go through the classes of a unit, and the questions about classes that
several rules ask. Names are compared in lower case where a rule speaks of what a name contains.
-/
namespace PatternInspector.Java

section Detections

/-- What a rule says about a class or about the unit. The rule itself gives the pattern and the
category. -/
structure Detection where
  pattern : Pattern
  category : Category
  confidence : Confidence
  evidence : List String
  className : Option String := none
  methodName : Option String := none
  line : Option Int := none
  antipatterns : List String := []

def detectionAt (pattern : Pattern) (category : Category) (cls : ClassModel)
    (confidence : Confidence) (evidence antipatterns : List String) : Detection :=
  { pattern, category, confidence, evidence, className := cls.name, line := cls.line, antipatterns }

def Detection.toValue (detection : Detection) : Value := .object [
  ("pattern", .string detection.pattern.label),
  ("category", .string detection.category.label),
  ("confidence", detection.confidence.toValue),
  ("location", .object [
    ("class_name", .optional .string detection.className),
    ("method_name", .optional .string detection.methodName),
    ("line", .optional .int detection.line)]),
  ("evidence", .strings detection.evidence),
  ("antipatterns", .strings detection.antipatterns)]

end Detections

section Rules

/-- Judges one class, knowing all classes of the unit and whether anti-patterns are asked for. -/
abbrev ClassRule := ClassModel → List ClassModel → Bool → Option Detection

abbrev UnitRule := List ClassModel → Bool → List Detection

/-- A rule under the category and the pattern for which it is configured. -/
structure Rule where
  category : Category
  pattern : Pattern
  evaluate : UnitRule

/-- Judges one class after the other. -/
def Rule.perClass (category : Category) (pattern : Pattern) (judge : ClassRule) : Rule where
  category
  pattern
  evaluate := fun classes detectAntipatterns =>
    classes.filterMap fun cls => judge cls classes detectAntipatterns

def Rule.perUnit (category : Category) (pattern : Pattern) (evaluate : UnitRule) : Rule :=
  { category, pattern, evaluate }

end Rules

section Names

def hasPart (name fragment : String) : Bool := Text.includes name.toList fragment.toList

def startsWith (name start : String) : Bool := start.toList.isPrefixOf name.toList

def endsWith (name ending : String) : Bool := ending.toList.isSuffixOf name.toList

/-- Whether the name in lower case contains one of the fragments. -/
def mentions (name : String) (fragments : List String) : Bool :=
  let lowered := lowerString name
  fragments.any fun fragment => hasPart lowered fragment

def listed (names : List String) : String := joinWith ", " names

def counted (n : Nat) (label : String) : String := toString n ++ label

end Names

namespace ClassModel

def ownMethods (cls : ClassModel) : List Method := cls.methods.filter fun m => !m.isConstructor

def constructors (cls : ClassModel) : List Method := cls.methods.filter Method.isConstructor

def methodNames (cls : ClassModel) : List String := cls.ownMethods.map (·.name)

def hasMethod (cls : ClassModel) (name : String) : Bool := cls.methodNames.contains name

def hasMethodLike (cls : ClassModel) (fragments : List String) : Bool :=
  cls.ownMethods.any fun m => mentions m.name fragments

def instanceFields (cls : ClassModel) : List Field := cls.fields.filter fun f => !f.isStatic

def publicInstanceMethods (cls : ClassModel) : List Method :=
  cls.ownMethods.filter fun m => m.isPublic && !m.isStatic

def isNamed (cls : ClassModel) (fragments : List String) : Bool := mentions cls.name fragments

end ClassModel

def isCollection (type : String) : Bool :=
  ["List", "Set", "Collection"].any fun collection => hasPart type collection

/-- How many of the four data operations a class offers; saving counts as creating and updating. -/
def crudScore (cls : ClassModel) : Nat :=
  let offers (fragments : List String) : Nat := if cls.hasMethodLike fragments then 1 else 0
  offers ["save", "create", "insert"] + offers ["read", "find", "get"] +
    offers ["save", "update"] + offers ["delete", "remove"]

end PatternInspector.Java
