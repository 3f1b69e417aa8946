import PatternInspector.Component.Extract
import PatternInspector.Component.Finding
import PatternInspector.Component.Rules
import PatternInspector.Text.Case

/-!
Composables: functions that a script defines to share reactive state, and the calls it makes to them.
-/
namespace PatternInspector.Component

open PatternInspector.Text (Reader)
open PatternInspector.Literal (Closing)

section Definitions

/-- A function found in a script, with its parameter list and its body. -/
structure Definition where
  start : Nat
  name : Text
  exported : Bool
  parameters : Text
  body : Text

/-- What a definition starts with: its name and whether it is exported. -/
structure DefinitionHead where
  name : Text
  exported : Bool

def exportMark : Reader Bool := do
  let mark ← Reader.optional do
    Reader.word "export"
    Reader.blanks1
  return mark.isSome

def functionHead : Reader DefinitionHead := do
  let exported ← exportMark
  let _ ← Reader.optional do
    Reader.word "async"
    Reader.blanks1
  Reader.word "function"
  Reader.blanks
  let _ ← Reader.optional (Reader.single '*')
  Reader.blanks
  let name ← Reader.matched Reader.name
  Reader.blanks
  Reader.single '('
  return ⟨name, exported⟩

def arrowHead : Reader DefinitionHead := do
  let exported ← exportMark
  Reader.word "const"
  Reader.blanks1
  let name ← composableName
  Reader.blanks
  Reader.single '='
  Reader.blanks
  let _ ← Reader.optional do
    Reader.word "async"
    Reader.blanks
  Reader.single '('
  return ⟨name, exported⟩

def insertByStart (found : Reader.Found DefinitionHead) :
    List (Reader.Found DefinitionHead) → List (Reader.Found DefinitionHead)
  | [] => [found]
  | other :: rest =>
      if found.start < other.start then found :: other :: rest
      else other :: insertByStart found rest

/-- The heads of both forms, in the order of the script. -/
def definitionHeads (content : Text) : List (Reader.Found DefinitionHead) :=
  (Reader.findAll arrowHead content).foldl (fun heads found => insertByStart found heads)
    (Reader.findAll functionHead content)

variable {m : Type → Type} [Monad m] (closing : Closing m)

/-- Parameter list and body of the function whose parenthesis opens at `index`. The body is the group
of the next brace behind the parameters. -/
def functionParts (content : Text) (index : Nat) : m (Text × Text) := do
  match ← closing content index with
  | none => return ([], [])
  | some close =>
      let parameters := Text.slice content index (close + 1)
      match Text.find? ['\x7b'] (content.drop close) with
      | none => return (parameters, [])
      | some distance =>
          let bodyStart := close + distance
          match ← closing content bodyStart with
          | none => return (parameters, content.drop bodyStart)
          | some bodyEnd => return (parameters, Text.slice content bodyStart (bodyEnd + 1))

def definitionsBy (content : Text) : m (List Definition) :=
  (definitionHeads content).mapM fun found => do
    let (parameters, body) ← functionParts closing content (found.stop - 1)
    return ⟨found.start, found.value.name, found.value.exported, parameters, body⟩

end Definitions

section Traits

def isComposableName (name : Text) : Bool :=
  Reader.matchesStart (do Reader.word "use"; let _ ← Reader.char Text.isUpperLetter) name

def reactiveReturn : Reader Unit :=
  Reader.orElse
    (do
      Reader.word "return"
      Reader.blanks
      Reader.single '\x7b'
      Reader.many notCloseBrace
      Reader.wordEdge
      Reader.words ["ref", "reactive", "computed", "readonly", "toRefs", "toRef"]
      Reader.wordEdge)
    (do
      Reader.word "return"
      Reader.blanks1
      Reader.words ["ref", "reactive", "computed", "readonly"]
      Reader.blanks
      Reader.single '(')

def reactiveCall : Reader Unit := do
  Reader.wordEdge
  Reader.words ["ref", "reactive", "computed", "readonly", "shallowRef"]
  Reader.blanks
  let _ ← Reader.char fun c => c == '<' || c == '('

def optionsParameter : Reader Unit := do
  Reader.blanks
  Reader.single '('
  Reader.blanks
  Reader.words ["options", "config", "params", "opts"]
  Reader.wordEdge

def callOf (names : List String) : Reader Unit := do
  Reader.wordEdge
  Reader.words names
  Reader.blanks
  Reader.single '('

def flexibleArguments : Reader Unit := callOf ["unref", "toRef", "toRefs", "toValue", "isRef"]

def lifecycleHook : Reader Unit :=
  callOf ["onMounted", "onUnmounted", "onBeforeMount", "onBeforeUnmount", "onUpdated",
    "onBeforeUpdate"]

end Traits

section Detections

def capitalized : Text → Text
  | [] => []
  | c :: rest => Text.upperChar c ++ rest

/-- Whether a definition counts as a composable: by its name, or, where naming is enforced, because
it is exported and handles reactive state. -/
def isComposable (rules : ComposableRules) (definition : Definition) : Bool :=
  isComposableName definition.name ||
    (rules.enforceNaming && definition.exported && Reader.occurs reactiveCall definition.body)

def definitionDetection (rules : ComposableRules) (block : Block) (definition : Definition) :
    Detection :=
  let name := String.ofList definition.name
  let named := isComposableName definition.name
  let reactive := Reader.occurs reactiveReturn definition.body
  { pattern := "composable"
    category := .composables
    componentName := name
    location := locate block definition.start .script
    confidence := .highIf named
    evidence :=
      ["composable関数: " ++ name,
        if named then "命名規則（useプレフィックス）に従っている"
        else "リアクティブな状態を扱うエクスポート関数"] ++
      noteIf reactive "リアクティブな値（ref/reactive/computed）を返す" ++
      noteIf (Reader.matchesStart optionsParameter definition.parameters)
        "オプションオブジェクトで設定を受け取る" ++
      noteIf (Reader.occurs flexibleArguments definition.body) "柔軟な引数（ref/unref）を受け付ける" ++
      noteIf (Reader.occurs lifecycleHook definition.body)
        "ライフサイクルフック（onMounted等）を使用"
    antipatterns := noteIf (!named) "'use'プレフィックスがない"
    suggestions :=
      noteIf (!named)
        ("'use" ++ String.ofList (capitalized definition.name) ++ "'のように命名してください") ++
      noteIf (!reactive && rules.enforceReturnReactive)
        "リアクティブな値を返すことを検討してください" }

def usageDetection? (outline : Outline) (block : Block) : Option Detection :=
  match outline.composables with
  | [] => none
  | first :: others => some {
      pattern := "composable-usage"
      category := .composables
      componentName := outline.name
      location := locateWord block first .script
      confidence := .highIf !others.isEmpty
      evidence := outline.composables.map fun name => "composableの呼び出し: " ++ name }

/-- The composables that the primary script defines, then its use of others. -/
def detectComposables (rules : ComposableRules) (outline : Outline) (block : Option Block)
    (found : List Definition) : List Detection :=
  match block with
  | none => []
  | some block =>
      (found.filter (isComposable rules)).map (definitionDetection rules block) ++
        (usageDetection? outline block).toList

end Detections

end PatternInspector.Component
