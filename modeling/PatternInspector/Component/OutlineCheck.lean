import PatternInspector.Component.Outline
import PatternInspector.Config.Model

/-!
Component outlines from data. The name has to be given; all else has a default.
-/
namespace PatternInspector.Component

open Config (Checked field requiredField openRecord checkBool checkChoice checkText checkTexts
  checkNullable checkItems)

def checkContent (fallback : Text) (value : Value) : Checked Text := do
  return (← checkText (String.ofList fallback) value).toList

def checkStyle : Style → Value → Checked Style :=
  openRecord fun default entries => do
    let content ← requiredField entries "content" default.content checkContent
    let isScoped ← field entries "scoped" false checkBool
    let language ← field entries "lang" none (checkNullable "" checkText)
    return { content, isScoped, language }

def Outline.check : Value → Checked Outline :=
  openRecord (fun _ entries => do
    let name ← requiredField entries "name" "" checkText
    let version ← field entries "version" .unknown (checkChoice Version.ofLabel?)
    let isScriptSetup ← field entries "is_script_setup" false checkBool
    let hasTypescript ← field entries "has_typescript" false checkBool
    let usesOptionsApi ← field entries "uses_options_api" false checkBool
    let usesCompositionApi ← field entries "uses_composition_api" false checkBool
    let imports ← field entries "imports" [] checkTexts
    let exports ← field entries "exports" [] checkTexts
    let props ← field entries "props" [] checkTexts
    let emits ← field entries "emits" [] checkTexts
    let composables ← field entries "composables" [] checkTexts
    let mixins ← field entries "mixins" [] checkTexts
    let filters ← field entries "filters" [] checkTexts
    let data ← field entries "data" [] checkTexts
    let methods ← field entries "methods" [] checkTexts
    let computed ← field entries "computed" [] checkTexts
    let watch ← field entries "watch" [] checkTexts
    let template ← field entries "template" none (checkNullable [] checkContent)
    let script ← field entries "script" none (checkNullable [] checkContent)
    let scriptSetup ← field entries "script_setup" none (checkNullable [] checkContent)
    let styles ← field entries "styles" [] (checkItems { content := [] } checkStyle)
    return {
      name, version, isScriptSetup, hasTypescript, usesOptionsApi, usesCompositionApi, imports,
      exports, props, emits, composables, mixins, filters, data, methods, computed, watch, template,
      script, scriptSetup, styles }) { name := "" }

end PatternInspector.Component
