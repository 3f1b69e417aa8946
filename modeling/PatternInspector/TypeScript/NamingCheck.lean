import PatternInspector.TypeScript.Declared
import PatternInspector.TypeScript.Rules
import PatternInspector.TypeScript.Violation

/-!
Names of classes, functions, methods and constants that do not follow their style.
-/
namespace PatternInspector.TypeScript

open PatternInspector.Syntax (Node)
open PatternInspector.Syntax.Node (Visit)

/-- A violation at a node whose name does not follow the style. -/
def misnamed? (rule subject : String) (severity : Severity) (style : NamingStyle) (node : Node)
    (name : Text) : Option Violation :=
  if style.accepts name then none
  else some {
    rule
    category := .naming
    severity
    message := subject ++ "'" ++ String.ofList name ++ "'は" ++ style.label ++ "で命名してください"
    line := node.line
    column := node.column
    suggestion := "'" ++ String.ofList (style.convert name) ++ "'に変更してください" }

/-- A constant with an underscore has to follow the style of constants or that of variables. -/
def misnamedConstant? (patterns : NamingPatterns) (declarator : Node) : Option Violation :=
  match declaredName? declarator with
  | none => none
  | some name =>
      if !name.contains '_' || patterns.constants.accepts name || patterns.bindings.accepts name
      then none
      else some {
        rule := "naming-const-convention"
        category := .naming
        severity := .info
        message := "定数'" ++ String.ofList name ++ "'は" ++ patterns.bindings.label ++ "または" ++
          patterns.constants.label ++ "で命名してください"
        line := declarator.line
        column := declarator.column
        suggestion := "値には'" ++ String.ofList (patterns.bindings.convert name) ++
          "'、グローバル定数には'" ++ String.ofList (patterns.constants.convert name) ++
          "'を使用してください" }

/-- The name of a method that has to follow a style: a plain one in a class, unless the method is an
accessor or the constructor. -/
def styledMethodName? (visit : Visit) : Option Text :=
  if (visit.parent.map Node.kind) != some "class_body" then none
  else match visit.node.field? "name" with
    | none => none
    | some name =>
        if name.kind != "property_identifier" || isAccessor visit.node || name.text == "constructor"
        then none
        else some name.label.text

def namingViolationsAt (rules : NamingRules) (visit : Visit) : List Violation :=
  let node := visit.node
  let ownName := (node.field? "name").map (·.label.text)
  if isClass node then
    (ownName.bind (misnamed? "naming-class-pascalcase" "クラス" rules.severity
      rules.patterns.classes node)).toList
  else if isFunctionDeclaration node then
    (ownName.bind (misnamed? "naming-function-camelcase" "関数" rules.severity
      rules.patterns.functions node)).toList
  else if isMethod node then
    ((styledMethodName? visit).bind (misnamed? "naming-method-camelcase" "メソッド" rules.severity
      rules.patterns.functions node)).toList
  else if node.kind == "lexical_declaration" && declarationKeyword? node == some "const" then
    (declarators node).filterMap (misnamedConstant? rules.patterns)
  else []

def checkNames (rules : NamingRules) (root : Node) : List Violation :=
  root.visits.flatMap (namingViolationsAt rules)

end PatternInspector.TypeScript
