import PatternInspector.Config.Load
import PatternInspector.Literal.Trivia

/-!
Why an inspection gives no report. Some failures are answers to the one who asked, with a kind and
a message; the others are faults of the configuration or of the caller.
-/
namespace PatternInspector.Inspection

section Languages

inductive OptionalLanguage where
  | java
  | vue
  deriving DecidableEq

def OptionalLanguage.displayName : OptionalLanguage → String
  | .java => "Java"
  | .vue => "Vue"

def OptionalLanguage.rulesFile : OptionalLanguage → String
  | .java => "java.yaml"
  | .vue => "vue.yaml"

end Languages

section Failures

inductive ShapeFault where
  /-- A mapping was expected. -/
  | notAMapping
  /-- A list, or a text as the name of a section, was expected. -/
  | notAList
  deriving DecidableEq

inductive Failure where
  | unsupportedLanguage (language : String)
  | unavailable (language : OptionalLanguage)
  | unreadableFile (path : FilePath) (reason : String)
  /-- A path that holds the text of a component. -/
  | contentAsPath
  | unusablePath (fault : Files.PathFault)
  | configuration (fault : Config.LoadFault)
  | shape (fault : ShapeFault)
  | scan (fault : Literal.ScanFault)

structure Refusal where
  kind : String
  message : String

def Failure.refusal? : Failure → Option Refusal
  | .unsupportedLanguage language =>
      some ⟨"UnsupportedLanguageError", "Unsupported language: " ++ language⟩
  | .unavailable language => some ⟨"ValidatorUnavailableError",
      language.displayName ++ " validator is not available. Check that rules/" ++
        language.rulesFile ++ " exists in the configuration directory."⟩
  | .unreadableFile path reason =>
      some ⟨"FileReadError", "Failed to read file " ++ path.display ++ ": " ++ reason⟩
  | .contentAsPath => some ⟨"InputShapeMismatchError",
      "The filepath argument looks like file CONTENT rather than a path. " ++
      "To validate code directly, call 'validate_vue_code' with the 'code' argument. " ++
      "To validate a file, call 'validate_vue_file' with a path such as " ++
      "'./components/MyComponent.vue'."⟩
  | _ => none

def Refusal.toValue (refusal : Refusal) : Value := .object [
  ("error", .string refusal.kind),
  ("message", .string refusal.message)]

end Failures

end PatternInspector.Inspection
