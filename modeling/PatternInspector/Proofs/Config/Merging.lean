import PatternInspector.Proofs.Component.Configuration
import PatternInspector.Proofs.Java.Schema
import PatternInspector.Proofs.TypeScript.Configuration

/-!
Partial configurations. Whatever a configuration leaves out has its default, whatever it gives is
coerced or rejected, and a configuration that was accepted once is accepted as it was written out.
-/
namespace PatternInspector.Config

/-- The rules of every language are validated against their schema: data with an unknown key or a
value that does not fit is rejected, and any other data is merged with the defaults into rules that are
read back unchanged. -/
theorem partial_rules_merge_with_defaults :
    Validates TypeScript.Rules.schema TypeScript.Rules.check TypeScript.Rules.toValue ∧
      Validates Java.Rules.schema Java.Rules.check Java.Rules.toValue ∧
      Validates Component.Rules.schema Component.Rules.check Component.Rules.toValue :=
  ⟨TypeScript.Rules.check_validates, Java.Rules.check_validates, Component.Rules.check_validates⟩

-- A text that reads as a number fills a threshold, and all else keeps its default.
example :
    (TypeScript.Rules.check (.object [("rules", .object [("solid", .object [
      ("max_parameters", .string "7")])])])).toExcept = .ok { solid := { maxParameters := 7 } } :=
  rfl

end PatternInspector.Config
