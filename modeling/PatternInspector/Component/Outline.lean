import PatternInspector.Component.Block

/-!
The outline of a component: which names its scripts declare, which interfaces it uses, and which
framework version it was written for. Lists of names keep the order of first appearance.
-/
namespace PatternInspector.Component

inductive Version where
  | two
  | three
  | unknown
  deriving DecidableEq

def Version.label : Version → String
  | .two => "2"
  | .three => "3"
  | .unknown => "unknown"

def Version.all : List Version := [.two, .three, .unknown]

def Version.ofLabel? (label : String) : Option Version := all.find? (·.label == label)

structure Style where
  content : Text
  isScoped : Bool := false
  language : Option String := none

def Style.toValue (style : Style) : Value := .object [
  ("content", .string (String.ofList style.content)),
  ("scoped", .bool style.isScoped),
  ("lang", .optional .string style.language)]

structure Outline where
  name : String
  version : Version := .unknown
  isScriptSetup : Bool := false
  hasTypescript : Bool := false
  usesOptionsApi : Bool := false
  usesCompositionApi : Bool := false
  imports : List String := []
  exports : List String := []
  props : List String := []
  emits : List String := []
  composables : List String := []
  mixins : List String := []
  filters : List String := []
  data : List String := []
  methods : List String := []
  computed : List String := []
  watch : List String := []
  template : Option Text := none
  script : Option Text := none
  scriptSetup : Option Text := none
  styles : List Style := []

namespace Outline

/-- The script text that findings are searched in: the setup script unless it is empty. -/
def primaryScript (outline : Outline) : Text :=
  match outline.scriptSetup with
  | some (c :: rest) => c :: rest
  | _ => outline.script.getD []

def summaryFields (outline : Outline) : List (String × Value) := [
  ("name", .string outline.name),
  ("version", .string outline.version.label),
  ("is_script_setup", .bool outline.isScriptSetup),
  ("has_typescript", .bool outline.hasTypescript),
  ("uses_options_api", .bool outline.usesOptionsApi),
  ("uses_composition_api", .bool outline.usesCompositionApi),
  ("imports", .strings outline.imports),
  ("exports", .strings outline.exports),
  ("props", .strings outline.props),
  ("emits", .strings outline.emits),
  ("composables", .strings outline.composables),
  ("mixins", .strings outline.mixins),
  ("filters", .strings outline.filters),
  ("data", .strings outline.data),
  ("methods", .strings outline.methods),
  ("computed", .strings outline.computed),
  ("watch", .strings outline.watch)]

def textFields (outline : Outline) : List (String × Value) :=
  let text (content : Option Text) : Value :=
    .optional (fun chars => .string (String.ofList chars)) content
  [("template", text outline.template),
   ("script", text outline.script),
   ("script_setup", text outline.scriptSetup),
   ("styles", .items (outline.styles.map Style.toValue))]

/-- The outline without the texts it was taken from. -/
def toSummary (outline : Outline) : Value := .object outline.summaryFields

def toValue (outline : Outline) : Value := .object (outline.summaryFields ++ outline.textFields)

end Outline

/-- The list without its repetitions, each name at its first place. -/
def distinct : List String → List String
  | [] => []
  | name :: rest => name :: (distinct rest).filter (· != name)

end PatternInspector.Component
