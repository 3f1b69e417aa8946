import PatternInspector.TypeScript.Declared
import PatternInspector.TypeScript.Rules
import PatternInspector.TypeScript.Violation

/-!
Functions and classes that have grown beyond their limits.
-/
namespace PatternInspector.TypeScript

open PatternInspector.Syntax (Node)
open PatternInspector.Syntax.Node (Visit)

def tooLarge (rule : String) (severity : Severity) (node : Node) (message suggestion : String)
    (evidence : List String) : Violation := {
  rule
  category := .solid
  severity
  message
  line := node.line
  column := node.column
  suggestion
  evidence }

def limitNote (limit : Nat) : String := "あります（上限: " ++ toString limit ++ "）"

def callableViolations (rules : Rules) (visit : Visit) : List Violation :=
  let node := visit.node
  let noun := if isMethod node then "メソッド" else "関数"
  let subject := noun ++ "'" ++ callableName visit ++ "'"
  let parameters := parameterCount node
  let length := node.rowSpan
  (if rules.solid.maxParameters < parameters then
    [tooLarge "solid-too-many-parameters" rules.solid.severity node
      (subject ++ "の引数が" ++ toString parameters ++ "個" ++ limitNote rules.solid.maxParameters)
      ("オプションオブジェクトにまとめるか、" ++ noun ++ "を分割してください") []]
    else []) ++
  (if rules.codeSmells.detectLongMethods && rules.solid.maxFunctionLines < length then
    [tooLarge (if isMethod node then "solid-method-too-long" else "solid-function-too-long")
      rules.solid.severity node
      (subject ++ "が" ++ toString length ++ "行" ++ limitNote rules.solid.maxFunctionLines)
      ("より小さく目的の明確な" ++ noun ++ "に分割してください") []]
    else [])

def classViolations (rules : Rules) (node : Node) : List Violation :=
  let methods := classMethodCount node
  if rules.codeSmells.detectGodClasses && rules.solid.maxClassMethods < methods then
    let name := ((node.field? "name").map Node.text).getD "無名クラス"
    [tooLarge "solid-god-class" rules.solid.severity node
      ("クラス'" ++ name ++ "'のメソッドが" ++ toString methods ++ "個" ++
        limitNote rules.solid.maxClassMethods)
      "単一責任の原則に従ってクラスを分割してください" [toString methods ++ "個のメソッド"]]
  else []

def sizeViolationsAt (rules : Rules) (visit : Visit) : List Violation :=
  if isFunction visit.node || isMethod visit.node then callableViolations rules visit
  else if isClass visit.node then classViolations rules visit.node
  else []

def checkSizes (rules : Rules) (root : Node) : List Violation :=
  root.visits.flatMap (sizeViolationsAt rules)

end PatternInspector.TypeScript
