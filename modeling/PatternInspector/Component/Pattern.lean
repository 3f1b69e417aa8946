import PatternInspector.Component.Composable

/-!
Patterns of whole components: how script and template work together, which kinds of slots the
template offers, and how the options interface of version 2 is used.
-/
namespace PatternInspector.Component

open PatternInspector.Text (Reader)

section Templates

def slotStart : Text := "<slot".toList

def slotTag : Reader Unit := do
  Reader.word "<slot"
  let _ ← Reader.char fun c => Text.isBlank c || c == '/' || c == '>'

def insideTag (c : Char) : Bool := c != '>'

def namedSlot : Reader Unit := do
  Reader.word "<slot"
  Reader.blanks1
  Reader.many insideTag
  keyword "name"
  Reader.blanks
  Reader.single '='

def isTagPart (c : Char) : Bool := Text.isWord c || c == '-'

def scopedSlot : Reader Unit := do
  Reader.word "<slot"
  Reader.blanks1
  Reader.many insideTag
  Reader.orElse
    (do
      let _ ← Reader.char Text.isBlank
      Reader.single ':'
      Reader.rejecting do
        Reader.word "name"
        Reader.wordEdge
      Reader.many1 isTagPart)
    (do
      let _ ← Reader.char Text.isBlank
      Reader.word "v-bind"
      Reader.wordEdge)

def builtInTag (names : List String) : Reader Unit := do
  Reader.single '<'
  Reader.words names
  Reader.wordEdge

def anyTag : Reader Text := do
  Reader.single '<'
  let _ ← Reader.optional (Reader.single '/')
  Reader.matched do
    let _ ← Reader.char Text.isLetter
    Reader.many isTagPart

/-- The text without its closed markup comments. -/
def withoutComments (skip : Nat) : Text → Text
  | [] => []
  | c :: rest =>
      match skip with
      | left + 1 => withoutComments left rest
      | 0 =>
          let comment :=
            if "<!--".toList.isPrefixOf (c :: rest) then Text.find? "-->".toList (rest.drop 3)
            else none
          match comment with
          | some inside => withoutComments (inside + 6) rest
          | none => c :: withoutComments 0 rest

/-- Whether a component with a script renders slots and nothing else. -/
def isRenderless (outline : Outline) (template : Text) : Bool :=
  let cleaned := Text.strip (withoutComments 0 template)
  Reader.matchesStart slotTag cleaned &&
    (outline.script.isSome || outline.scriptSetup.isSome) &&
    (Reader.findAll anyTag cleaned).all fun found => Text.lower found.value == "slot".toList

def templateDetection (pattern : String) (outline : Outline) (block : Block) (index : Nat)
    (evidence : List String) : Detection := {
  pattern
  category := .components
  componentName := outline.name
  location := locate block index .template
  confidence := .high
  evidence }

def firstSlot (template : Text) : Nat := (Text.find? slotStart template).getD 0

def detectNamedSlots (outline : Outline) (block : Block) : List Detection :=
  match Reader.findAll namedSlot block.content with
  | [] => []
  | found => [templateDetection "named-slots" outline block (firstSlot block.content)
      ["<slot name>による名前付きスロット", toString found.length ++ "個の名前付きスロット"]]

def detectScopedSlots (outline : Outline) (block : Block) : List Detection :=
  match Reader.findAll scopedSlot block.content with
  | [] => []
  | first :: others => [templateDetection "scoped-slots" outline block first.start
      ["スロットへのデータバインディング（スコープ付きスロット）",
        toString (others.length + 1) ++ "個のスコープ付きスロット"]]

def detectRenderless (outline : Outline) (block : Block) : List Detection :=
  if isRenderless outline block.content then
    [templateDetection "renderless-component" outline block (firstSlot block.content)
      ["テンプレートが<slot>のみで構成される", "UIを持たずロジックだけを提供する"]]
  else []

def detectBuiltIn (pattern label : String) (names : List String) (outline : Outline)
    (block : Block) : List Detection :=
  match Reader.search (builtInTag names) block.content with
  | none => []
  | some found => [templateDetection pattern outline block found.start
      [label ++ "を使用", "Vue 3専用の組み込みコンポーネント"]]

def detectTemplate (outline : Outline) (block : Block) : List Detection :=
  detectNamedSlots outline block ++ detectScopedSlots outline block ++
    detectRenderless outline block ++
    detectBuiltIn "teleport" "<Teleport>" ["Teleport", "teleport"] outline block ++
    detectBuiltIn "suspense" "<Suspense>" ["Suspense", "suspense"] outline block

end Templates

section Scripts

def businessLogic : Reader Unit := do
  Reader.words ["const", "let", "var"]
  Reader.blanks1
  Reader.many1 Text.isNamePart
  Reader.blanks
  Reader.single '='
  Reader.blanks
  Reader.words ["computed", "ref", "reactive", "watch"]
  Reader.wordEdge

/-- Components with a setup script that take properties are smart or dumb, depending on whether they
keep state of their own. -/
def detectSmartDumb (rules : ComponentRules) (outline : Outline) (block : Option Block) :
    List Detection :=
  if outline.isScriptSetup && rules.enforceSmartDumb && !outline.props.isEmpty then
    let smart := Reader.occurs businessLogic (outline.scriptSetup.getD [])
    [{ pattern := "smart-dumb-components"
       category := .components
       componentName := outline.name
       location := locate block 0 .script
       confidence := .highIf !smart
       evidence :=
        [if smart then "Smartコンポーネント（ビジネスロジックを含む）"
          else "Dumb/Presentationalコンポーネント（propsを受け取るだけ）",
          "<script setup>（Composition API）を使用",
          "definePropsで" ++ toString outline.props.length ++ "個のpropsを定義"] ++
        noteIf (!outline.emits.isEmpty)
          ("defineEmitsで" ++ toString outline.emits.length ++ "個のイベントを定義")
       suggestions := noteIf smart "ロジックが大きくなる場合はcomposableへの分離を検討してください" }]
  else []

def injectionCall (name : String) : Reader Unit := do
  keyword name
  Reader.blanks
  let _ ← Reader.char fun c => c == '(' || c == ':'

def detectProvideInject (outline : Outline) (block : Option Block) : List Detection :=
  let provides := (Reader.search (injectionCall "provide") outline.primaryScript).map (·.start)
  let injects := (Reader.search (injectionCall "inject") outline.primaryScript).map (·.start)
  match (provides.toList ++ injects.toList).min? with
  | none => []
  | some first => [{
      pattern := "provide-inject"
      category := .components
      componentName := outline.name
      location := locate block first .script
      confidence := .highIf (provides.isSome && injects.isSome)
      evidence :=
        noteIf provides.isSome "provideで値を子孫へ提供" ++
        noteIf injects.isSome "injectで祖先から値を受け取る" }]

def detectComponents (rules : ComponentRules) (outline : Outline) (descriptor : Descriptor) :
    List Detection :=
  detectSmartDumb rules outline descriptor.primaryScript ++
    descriptor.template.toList.flatMap (detectTemplate outline) ++
    detectProvideInject outline descriptor.primaryScript

end Scripts

section Options

def optionDetection (pattern : String) (outline : Outline) (location : Location)
    (evidence suggestions : List String) : Detection := {
  pattern
  category := .optionsApi
  componentName := outline.name
  location
  confidence := .high
  evidence
  suggestions }

def countNote (names : List String) (before after : String) : List String :=
  noteIf (!names.isEmpty) (before ++ toString names.length ++ after)

def detectOptionsStructure (outline : Outline) (block : Option Block) : List Detection :=
  if !outline.data.isEmpty || !outline.methods.isEmpty || !outline.computed.isEmpty then
    let evidence :=
      ["Options API（Vue 2スタイル）を使用"] ++
      countNote outline.data "data()で" "個のプロパティを定義" ++
      countNote outline.methods "" "個のメソッドを定義" ++
      countNote outline.computed "" "個の算出プロパティを定義" ++
      countNote outline.watch "" "個のウォッチャーを定義"
    [{ pattern := "options-api-structure"
       category := .optionsApi
       componentName := outline.name
       location := locate block 0 .script
       confidence := .highIf (2 ≤ evidence.length)
       evidence }]
  else []

def detectMixins (outline : Outline) (block : Option Block) : List Detection :=
  if outline.mixins.isEmpty then []
  else [optionDetection "vue2-mixins" outline (locateWord block "mixins" .script)
    [toString outline.mixins.length ++ "個のmixinを使用: " ++ joinWith ", " outline.mixins,
      "Vue 2ではコード再利用の有効なパターン"]
    ["Vue 3へ移行する際はcomposableへの置き換えを検討してください"]]

def detectFilters (outline : Outline) (block : Option Block) : List Detection :=
  if outline.filters.isEmpty then []
  else [optionDetection "vue2-filters" outline (locateWord block "filters" .script)
    [toString outline.filters.length ++ "個のfilterを定義: " ++ joinWith ", " outline.filters,
      "Vue 2ではテンプレートでの整形に有効なパターン"]
    ["Vue 3へ移行する際は算出プロパティまたはメソッドに置き換えてください"]]

def detectWatchers (outline : Outline) (block : Option Block) : List Detection :=
  if outline.watch.isEmpty then []
  else [optionDetection "watchers" outline (locateWord block "watch" .script)
    [toString outline.watch.length ++ "個のウォッチャーでリアクティブな値を監視",
      "ウォッチャー: " ++ joinWith ", " outline.watch]
    []]

/-- Patterns that are sound in version 2 only. -/
def detectOptions (outline : Outline) (block : Option Block) : List Detection :=
  if outline.usesOptionsApi && outline.version == .two then
    detectOptionsStructure outline block ++ detectMixins outline block ++
      detectFilters outline block ++ detectWatchers outline block
  else []

end Options

end PatternInspector.Component
