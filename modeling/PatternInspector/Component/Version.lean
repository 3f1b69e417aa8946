import PatternInspector.Component.Outline
import PatternInspector.Text.Reader

/-!
Which interface a component uses and which framework version that implies. Every sign of the
composition interface outweighs every sign of the options interface.
-/
namespace PatternInspector.Component

open PatternInspector.Text (Reader)

section Signs

def keyword (name : String) : Reader Unit := do
  Reader.wordEdge
  Reader.word name

def compositionMacro : Reader Unit := do
  keyword "define"
  Reader.words ["Props", "Emits", "Expose"]
  Reader.wordEdge

def versionThreeTag : Reader Unit := do
  Reader.single '<'
  Reader.words ["Teleport", "teleport", "Suspense", "suspense"]
  Reader.wordEdge

def notCloseBrace (c : Char) : Bool := c != '\x7d'

/-- An import of one of the reactive functions from the framework. -/
def compositionImport : Reader Unit := do
  Reader.word "import"
  Reader.blanks
  Reader.single '\x7b'
  Reader.many notCloseBrace
  Reader.wordEdge
  Reader.words ["ref", "reactive", "computed", "onMounted", "onUnmounted", "watch", "watchEffect",
    "toRefs", "toRef", "unref"]
  Reader.wordEdge
  Reader.many notCloseBrace
  Reader.single '\x7d'
  Reader.blanks
  Reader.word "from"
  Reader.blanks
  let _ ← Reader.char Text.isQuote
  Reader.word "vue"
  let _ ← Reader.char Text.isQuote

def setupFunction : Reader Unit :=
  Reader.orElse
    (do
      keyword "setup"
      Reader.blanks
      Reader.single '('
      Reader.many (· != ')')
      Reader.single ')'
      Reader.blanks
      Reader.single '\x7b')
    (do
      keyword "setup"
      Reader.blanks
      Reader.single ':'
      Reader.blanks
      let _ ← Reader.optional do
        Reader.word "async"
        Reader.blanks1
      Reader.word "function"
      Reader.wordEdge)

def legacyHook : Reader Unit := do
  Reader.wordEdge
  Reader.words ["beforeDestroy", "destroyed"]
  Reader.wordEdge

/-- A member of the options object that holds state, methods or mixins. -/
def optionsMember : Reader Unit :=
  Reader.oneOf [
    (do
      keyword "data"
      Reader.blanks
      Reader.single '('
      Reader.blanks
      Reader.single ')'
      Reader.blanks
      Reader.single '\x7b'),
    (do
      keyword "data"
      Reader.blanks
      Reader.single ':'
      Reader.blanks
      Reader.words ["function", "("]),
    (do
      Reader.wordEdge
      Reader.words ["methods", "computed", "watch", "mixins", "filters"]
      Reader.blanks
      Reader.single ':')]

end Signs

section Inference

def detectOptionsApi (script : Text) (outline : Outline) : Bool :=
  !outline.data.isEmpty || !outline.methods.isEmpty || !outline.computed.isEmpty ||
    !outline.watch.isEmpty || !outline.mixins.isEmpty || !outline.filters.isEmpty ||
    Reader.occurs optionsMember script

def detectCompositionApi (script scriptSetup : Text) (outline : Outline) : Bool :=
  outline.isScriptSetup || Reader.occurs setupFunction script ||
    Reader.occurs compositionImport script || !(Text.strip scriptSetup).isEmpty

def inferVersion (outline : Outline) (script scriptSetup : Text) : Version :=
  if outline.isScriptSetup then .three
  else if Reader.occurs compositionMacro (script ++ scriptSetup) then .three
  else if outline.template.any (Reader.occurs versionThreeTag) then .three
  else if Reader.occurs compositionImport script then .three
  else if Reader.occurs setupFunction script then .three
  else if !outline.filters.isEmpty then .two
  else if Reader.occurs legacyHook script then .two
  else if outline.usesOptionsApi && !outline.usesCompositionApi then .two
  else .unknown

end Inference

end PatternInspector.Component
