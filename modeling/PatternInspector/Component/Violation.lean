import PatternInspector.Component.Pattern

/-!
Rules that a component breaks: anti-patterns, neglected practices, and loops without keys.
-/
namespace PatternInspector.Component

open PatternInspector.Text (Reader)

section Tags

def tagUpTo (directive : String) : Reader Unit := do
  Reader.single '<'
  Reader.many1 isTagPart
  Reader.many insideTag
  keyword directive
  Reader.wordEdge

def laterDirective (directive : String) : Reader Unit := do
  Reader.many insideTag
  keyword directive
  Reader.wordEdge

/-- A tag that holds both the loop and the condition directive, in either order. -/
def loopWithCondition : Reader Unit :=
  Reader.orElse
    (do tagUpTo "v-for"; laterDirective "v-if")
    (do tagUpTo "v-if"; laterDirective "v-for")

def loopTag : Reader Text := Reader.matched do
  tagUpTo "v-for"
  Reader.many insideTag
  Reader.single '>'

def keyBinding : Reader Unit := do
  let _ ← Reader.char Text.isBlank
  Reader.words [":key", "v-bind:key"]
  Reader.blanks
  Reader.single '='

end Tags

section AntiPatterns

def checkMixins (rules : AntiPatternRules) (outline : Outline) (script : Option Block) :
    List Violation :=
  if rules.detectMixins && !outline.mixins.isEmpty && outline.version == .three then
    [{ rule := "mixin-usage"
       category := .antiPatterns
       severity := rules.severity
       message := "mixinsの使用を検出しました。Vue 3ではcomposableを推奨します"
       location := locateWord script "mixins" .script
       suggestion := "Composition APIのcomposableに移行してください"
       evidence := ["mixins: " ++ joinWith ", " outline.mixins] }]
  else []

def checkFilters (rules : AntiPatternRules) (outline : Outline) (script : Option Block) :
    List Violation :=
  if !outline.filters.isEmpty && outline.version == .three then
    [{ rule := "filter-deprecated"
       category := .migration
       severity := rules.severity
       message := "filtersはVue 3で削除されました"
       location := locateWord script "filters" .script
       suggestion := "算出プロパティまたはメソッドに置き換えてください"
       evidence := ["filters: " ++ joinWith ", " outline.filters] }]
  else []

def checkLoopConditions (rules : AntiPatternRules) (template : Option Block) : List Violation :=
  if rules.detectVIfVFor then
    template.toList.flatMap fun (block : Block) =>
      (Reader.findAll loopWithCondition block.content).map fun found => {
        rule := "v-if-with-v-for"
        category := .antiPatterns
        severity := rules.severity
        message := "同じ要素でv-ifとv-forを併用しています"
        location := locate block found.start .template
        suggestion := "算出プロパティでリストを絞り込むか、<template>で囲んでください" }
  else []

def propAssignment (prop : Text) : Reader Text := Reader.matched do
  Reader.notAfter fun c => Text.isNamePart c || c == '.'
  let _ ← Reader.optional (Reader.words ["props.", "this."])
  Reader.chars prop
  let _ ← Reader.optional (Reader.word ".value")
  Reader.blanks
  Reader.single '='
  Reader.notBefore fun c => c == '=' || c == '>'

def checkPropMutation (rules : AntiPatternRules) (outline : Outline) (block : Option Block) :
    List Violation :=
  if rules.detectPropMutation then
    outline.props.filterMap fun prop =>
      (Reader.search (propAssignment prop.toList) outline.primaryScript).map fun found => {
        rule := "prop-mutation"
        category := .antiPatterns
        severity := .error
        message := "prop '" ++ prop ++ "' を直接変更しています"
        location := locate block found.start .script
        suggestion := "イベントをemitして親コンポーネントに値を更新させてください"
        evidence := [String.ofList (Text.strip found.value)] }
  else []

def parentAccess : Reader Text := Reader.matched do
  Reader.single '$'
  Reader.words ["parent", "children", "root"]
  Reader.wordEdge

def checkParentAccess (rules : AntiPatternRules) (outline : Outline) (block : Option Block) :
    List Violation :=
  if rules.detectParentAccess then
    (Reader.search parentAccess outline.primaryScript).toList.map fun found => {
      rule := "parent-access"
      category := .antiPatterns
      severity := rules.severity
      message := String.ofList found.value ++ "へのアクセスを検出しました"
      location := locate block found.start .script
      suggestion := "props・イベント・provide/injectを使用してください" }
  else []

def scriptLines (script : Text) : Nat := if script.isEmpty then 0 else (Text.lines script).length

def checkSize (rules : Rules) (outline : Outline) (block : Option Block) : List Violation :=
  let size := scriptLines outline.primaryScript
  let limit := rules.components.maxComponentSize
  if limit < size then
    [{ rule := "god-component"
       category := .antiPatterns
       severity := rules.antiPatterns.severity
       message := "コンポーネントが大きすぎます（" ++ toString size ++ "行、推奨上限: " ++
         toString limit ++ "行）"
       location := locate block 0 .script
       suggestion := "ロジックをcomposableに抽出するか、小さなコンポーネントに分割してください"
       evidence := [toString size ++ "行"] }]
  else []

def checkAntiPatterns (rules : Rules) (outline : Outline) (descriptor : Descriptor) :
    List Violation :=
  let block := descriptor.primaryScript
  checkMixins rules.antiPatterns outline descriptor.script ++
    checkFilters rules.antiPatterns outline descriptor.script ++
    checkLoopConditions rules.antiPatterns descriptor.template ++
    checkPropMutation rules.antiPatterns outline block ++
    checkParentAccess rules.antiPatterns outline block ++
    checkSize rules outline block

end AntiPatterns

section Practices

def typedProp : Reader Unit :=
  Reader.orElse
    (do
      keyword "defineProps"
      Reader.blanks
      Reader.single '<')
    (do
      Reader.wordEdge
      Reader.many1 Text.isNamePart
      Reader.blanks
      Reader.single ':'
      Reader.blanks
      Reader.words ["String", "Number", "Boolean", "Array", "Object", "Function", "Date", "Symbol"]
      Reader.wordEdge)

def checkPropValidation (rules : BestPracticeRules) (outline : Outline) (block : Option Block) :
    List Violation :=
  if rules.enforcePropValidation && !outline.props.isEmpty &&
      !Reader.occurs typedProp outline.primaryScript then
    [{ rule := "prop-validation"
       category := .bestPractices
       severity := rules.severity
       message := "型検証のないpropsを検出しました"
       location := locateWord block "props" .script
       suggestion := "TypeScriptまたは実行時の型指定でpropsに型を付けてください"
       evidence := ["props: " ++ joinWith ", " outline.props] }]
  else []

def kebabCase (limit : Nat) : Reader Unit := do
  Reader.many1 Text.isLowerLetter
  Reader.repeated (do Reader.single '-'; Reader.many1 Text.isLowerLetter) limit
  Reader.atEnd

def isKebabCase (name : Text) : Bool := Reader.matchesStart (kebabCase name.length) name

def checkEventNaming (rules : BestPracticeRules) (outline : Outline) (block : Option Block) :
    List Violation :=
  if rules.enforceEventNaming then
    (outline.emits.filter fun event => !isKebabCase event.toList).map fun event => {
      rule := "event-naming"
      category := .bestPractices
      severity := rules.severity
      message := "イベント'" ++ event ++ "'がkebab-caseではありません"
      location := locateWord block event .script
      suggestion := "イベント名にはkebab-caseを使用してください（例: 'update-value'）" }
  else []

def checkScriptSetup (rules : BestPracticeRules) (outline : Outline) (script : Option Block) :
    List Violation :=
  if rules.enforceScriptSetup && !outline.isScriptSetup && script.isSome then
    [{ rule := "script-setup-usage"
       category := .bestPractices
       severity := rules.severity
       message := "<script setup>を使用していません"
       location := locate script 0 .script
       suggestion := "開発体験と性能のため<script setup>への移行を検討してください" }]
  else []

def checkBestPractices (rules : BestPracticeRules) (outline : Outline) (descriptor : Descriptor) :
    List Violation :=
  checkPropValidation rules outline descriptor.primaryScript ++
    checkEventNaming rules outline descriptor.primaryScript ++
    checkScriptSetup rules outline descriptor.script

end Practices

section Loops

def checkLoopKeys (rules : TemplateRules) (template : Option Block) : List Violation :=
  if rules.enforceVForKey then
    template.toList.flatMap fun (block : Block) =>
      ((Reader.findAll loopTag block.content).filter fun found =>
        !Reader.occurs keyBinding found.value).map fun found => {
          rule := "missing-v-for-key"
          category := .template
          severity := rules.severity
          message := "v-forに:keyが指定されていません"
          location := locate block found.start .template
          suggestion := "性能と正しさのためv-forには常に:keyを指定してください" }
  else []

end Loops

end PatternInspector.Component
