import PatternInspector.Config.Model
import PatternInspector.Java.ClassModel

/-!
Class models from data. Names and the types of fields and parameters have to be given; all else has
a default.
-/
namespace PatternInspector.Java

open Config (Checked Entries field requiredField openRecord checkBool checkText checkTexts
  checkNullable checkItems checkInteger)

def checkLine : Option Int → Value → Checked (Option Int) := checkNullable 0 checkInteger

def checkParameter : Parameter → Value → Checked Parameter :=
  openRecord fun default entries => do
    let name ← requiredField entries "name" default.name checkText
    let type ← requiredField entries "type" default.type checkText
    return { name, type }

def checkMethod : Method → Value → Checked Method :=
  openRecord fun default entries => do
    let name ← requiredField entries "name" default.name checkText
    let isAbstract ← field entries "is_abstract" false checkBool
    let isStatic ← field entries "is_static" false checkBool
    let isPrivate ← field entries "is_private" false checkBool
    let isPublic ← field entries "is_public" false checkBool
    let returnType ← field entries "return_type" none (checkNullable "" checkText)
    let parameters ← field entries "parameters" [] (checkItems ⟨"", ""⟩ checkParameter)
    let annotations ← field entries "annotations" [] checkTexts
    let line ← field entries "line" none checkLine
    return {
      name, isAbstract, isStatic, isPrivate, isPublic, returnType, parameters, annotations, line }

def checkField : Field → Value → Checked Field :=
  openRecord fun default entries => do
    let name ← requiredField entries "name" default.name checkText
    let type ← requiredField entries "type" default.type checkText
    let isStatic ← field entries "is_static" false checkBool
    let isFinal ← field entries "is_final" false checkBool
    let isPrivate ← field entries "is_private" false checkBool
    let modifiers ← field entries "modifiers" [] checkTexts
    return { name, type, isStatic, isFinal, isPrivate, modifiers }

def ClassModel.check : Value → Checked ClassModel :=
  openRecord (fun _ entries => do
    let name ← requiredField entries "name" "" checkText
    let isInterface ← field entries "is_interface" false checkBool
    let isAbstract ← field entries "is_abstract" false checkBool
    let methods ← field entries "methods" [] (checkItems { name := "" } checkMethod)
    let fields ← field entries "fields" [] (checkItems { name := "", type := "" } checkField)
    let implements ← field entries "implements" [] checkTexts
    let extends' ← field entries "extends" none (checkNullable "" checkText)
    let annotations ← field entries "annotations" [] checkTexts
    let modifiers ← field entries "modifiers" [] checkTexts
    let outerName ← field entries "outer_name" none (checkNullable "" checkText)
    let line ← field entries "line" none checkLine
    return {
      name, isInterface, isAbstract, methods, fields, implements, extends', annotations, modifiers,
      outerName, line }) { name := "" }

def ClassModel.checkAll (models : List Value) : Except (List Config.Issue) (List ClassModel) :=
  models.mapM fun model => (ClassModel.check model).toExcept

end PatternInspector.Java
