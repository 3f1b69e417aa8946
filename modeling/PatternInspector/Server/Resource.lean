import PatternInspector.Server.Tool
import PatternInspector.Yaml.Print

/-!
Documents that a server gives out under fixed addresses, and its prompt for reviews.
-/
namespace PatternInspector.Server

open PatternInspector.Inspection (Failure Service)

section Resources

inductive Resource where
  | typescriptRules
  | javaRules
  | vueRules
  | javaCatalog
  | vueCatalog
  deriving DecidableEq

def Resource.all : List Resource :=
  [.typescriptRules, .javaRules, .vueRules, .javaCatalog, .vueCatalog]

def Resource.address : Resource → String
  | .typescriptRules => "pattern-police://rules/typescript"
  | .javaRules => "pattern-police://rules/java"
  | .vueRules => "pattern-police://rules/vue"
  | .javaCatalog => "pattern-police://catalog/java"
  | .vueCatalog => "pattern-police://catalog/vue"

def Resource.ofAddress? (address : String) : Option Resource :=
  Resource.all.find? fun resource => resource.address == address

/-- A list that is there only if its language is inspected. -/
def availability {α : Type} (rules : Option α) (patterns : Except Failure (List Value)) :
    Except Failure Value :=
  match rules with
  | none => .ok (.object [("available", .bool false)])
  | some _ => do return .object [("available", .bool true), ("patterns", .items (← patterns))]

def catalog (config : Files.Tree) (file : String) : Except Failure Value :=
  match Config.loadCatalog config file with
  | .ok value => .ok value
  | .error fault => .error (.configuration fault)

def Resource.value (resource : Resource) (service : Service) (config : Files.Tree) :
    Except Failure Value :=
  match resource with
  | .typescriptRules => .ok service.listTypeScriptRules
  | .javaRules => availability service.java (service.listJavaPatterns config)
  | .vueRules => availability service.vue (service.listVuePatterns config)
  | .javaCatalog => catalog config "java-patterns.yaml"
  | .vueCatalog => catalog config "vue-patterns.yaml"

/-- The document under an address; none if there is no such address or its content has no form. -/
def readResource (service : Service) (config : Files.Tree) (address : String) : Option String := do
  let resource ← Resource.ofAddress? address
  match resource.value service config with
  | .ok value => some (Yaml.print value)
  | .error _ => none

end Resources

section Prompts

def reviewPromptName : String := "code_review_workflow"

def selectPhase : String :=
  "## Phase 1: 対象の確認\n" ++
  "\n" ++
  "1. レビュー対象の言語を確認してください（TypeScript/JavaScript・Java・Vue）。\n" ++
  "2. ファイルが手元にある場合はファイル検証ツール、コード片しかない場合はコード検証ツールを使ってください。\n" ++
  "3. `validate_vue_file` の `filepath` にコード本文を渡さないでください。 コード本" ++
  "文は `validate_vue_code` の `code` に渡します。\n" ++
  "\n"

def validatePhase : String :=
  "## Phase 2: 検証\n" ++
  "\n" ++
  "- TypeScript/JavaScript: `validate_code` または `validate_file`\n" ++
  "- Java: `validate_java_code` または `validate_java_file`\n" ++
  "- Vue: `validate_vue_code` または `validate_vue_file`\n" ++
  "\n" ++
  "結果に `error` キーがある場合は検証自体が行えていません。`message` の内容を利用者に伝えてください。\n" ++
  "`parse-error` 違反が1件だけ返った場合は構文エラーです。該当行を修正してから再検証してください。\n" ++
  "\n"

def reportPhase : String :=
  "## Phase 3: 結果の報告\n" ++
  "\n" ++
  "1. 重大度（error → warning → info）の順に違反を整理してください。\n" ++
  "2. 各違反の `suggestion` と `get_violations` の修正方法を参照して改善案を提示して" ++
  "ください。\n" ++
  "3. Javaの検出パターンは `confidence` と `evidence` を添えて説明し、`antipat" ++
  "terns` があれば優先して指摘してください。\n" ++
  "4. Vueは推定された `component.version` を明示してください。 mixinsやfilters" ++
  "の扱いはバージョンによって変わります。\n" ++
  "\n"

def reviewIntroduction : String :=
  "# コードレビューワークフロー\n" ++
  "\n" ++
  "パターン検出ツールでコードを検証し、結果を利用者に報告してください。\n" ++
  "有効なルールは `pattern-police://rules/typescript` などのリソースで確認できます。\n" ++
  "\n"

def reviewPrompt : String :=
  reviewIntroduction ++ selectPhase ++ validatePhase ++ reportPhase

def readPrompt (name : String) : Option String :=
  if name == reviewPromptName then some reviewPrompt else none

end Prompts

end PatternInspector.Server
