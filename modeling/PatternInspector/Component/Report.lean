import PatternInspector.Component.Split
import PatternInspector.Component.Violation

/-!
The report on a component: the patterns it follows and the rules it breaks.

The scans of the text come first and do not depend on the rules; what is reported is then a function
of their results, section by section in a fixed order.
-/
namespace PatternInspector.Component

open PatternInspector.Literal (ScanFault Closing findClosing)

variable {m : Type → Type} [Monad m] (closing : Closing m)

structure Analysis where
  outline : Outline
  definitions : List Definition

def analyzeBy (descriptor : Descriptor) : m Analysis := do
  let outline ← extractBy closing descriptor
  let found ← definitionsBy closing ((descriptor.primaryScript.map (·.content)).getD [])
  return ⟨outline, found⟩

def detections (rules : Rules) (descriptor : Descriptor) (analysis : Analysis) : List Detection :=
  (if rules.composables.enabled then
    detectComposables rules.composables analysis.outline descriptor.primaryScript
      analysis.definitions
    else []) ++
  (if rules.components.enabled then
    detectComponents rules.components analysis.outline descriptor
    else []) ++
  detectOptions analysis.outline descriptor.script

def violations (rules : Rules) (descriptor : Descriptor) (analysis : Analysis) : List Violation :=
  (if rules.antiPatterns.enabled then
    checkAntiPatterns rules analysis.outline descriptor
    else []) ++
  (if rules.bestPractices.enabled then
    checkBestPractices rules.bestPractices analysis.outline descriptor
    else []) ++
  (if rules.template.enabled then
    checkLoopKeys rules.template descriptor.template
    else [])

/-- The report on a component whose blocks could not be told apart. -/
def faultReport (filename : String) (fault : SplitFault) : Report := {
  filename
  violations := [{
    rule := parseErrorRule
    category := .parse
    severity := .error
    message := "Vueコンポーネントの解析に失敗しました: " ++ fault.message
    location := { line := fault.line }
    suggestion := "SFCのブロック構造（終了タグ・ブロックの重複）を確認してください" }] }

def defaultFilename : String := "Component.vue"

def validateBy (rules : Rules) (code : Text) (filename : String) : m Report :=
  match split code filename with
  | .error fault => return faultReport filename fault
  | .ok descriptor => do
      let analysis ← analyzeBy closing descriptor
      return {
        filename
        component := analysis.outline
        detections := detections rules descriptor analysis
        violations := violations rules descriptor analysis }

def validate (rules : Rules) (code : Text) (filename : String) : Except ScanFault Report :=
  validateBy findClosing rules code filename

end PatternInspector.Component
