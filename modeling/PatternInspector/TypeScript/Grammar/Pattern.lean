import PatternInspector.TypeScript.Grammar.Type

/-!
Patterns that values are taken apart by, and the parameters of functions.
-/
namespace PatternInspector.TypeScript.Grammar

open PatternInspector.Syntax
open PatternInspector.Syntax.Parser

section Patterns

def initializer (rules : Rules) : Parser := seq [equals, field "value" (rules .expression)]

/-- A pattern, perhaps with a value for what is not there. -/
def patternWithDefault (rules : Rules) : Parser :=
  growOnce [⟨"assignment_pattern", some "left", seq [equals, field "right" (rules .expression)],
    none⟩] (rules .pattern)

def shorthandPattern : Parser := wordOf "shorthand_property_identifier_pattern" []

def restPattern (rules : Rules) : Parser :=
  node "rest_pattern" (seq [mark "...", rules .pattern])

def objectPatternMember (rules : Rules) : Parser := choice [
  restPattern rules,
  node "pair_pattern" (seq [field "key" (propertyName rules), mark ":",
    field "value" (patternWithDefault rules)]),
  node "object_assignment_pattern" (seq [field "left" shorthandPattern, equals,
    field "right" (rules .expression)]),
  shorthandPattern]

def objectPattern (rules : Rules) : Parser :=
  node "object_pattern" (inCurlies (commaSepGaps (objectPatternMember rules)))

def arrayPattern (rules : Rules) : Parser :=
  node "array_pattern" (inSquares (commaSepGaps (patternWithDefault rules)))

def destructuring (rules : Rules) : Parser := choice [objectPattern rules, arrayPattern rules]

def target (rules : Rules) : Parser := choice [
  seq [identifier, ahead fun text => !startsWithAny [".", "[", "(", "!", "?.", "\x60"] text],
  ofKind ["identifier", "undefined", "member_expression", "subscript_expression",
    "non_null_expression"] (rules .member)]

def pattern (rules : Rules) : Parser :=
  choice [restPattern rules, destructuring rules, target rules]

end Patterns

section Parameters

def decorator (rules : Rules) : Parser :=
  node "decorator" (seq [mark "@", choice [
    node "parenthesized_expression" (inParens (rules .expressions)),
    grow [
        ⟨"member_expression", some "object",
          seq [mark ".", field "property" propertyIdentifier], none⟩,
        ⟨"call_expression", some "function",
          seq [opt (field "type_arguments" (typeArguments rules)),
            field "arguments" (rules .arguments)], none⟩]
      (wordOf "identifier" [])]])

def decorators (rules : Rules) : Parser := many (field "decorator" (decorator rules))

def parameterModifier : Parser := choice ([
  node "accessibility_modifier" (choice (["public", "private", "protected"].map fun word =>
    seq [keyword word, nameAhead ['\x7b']])),
  node "override_modifier" (seq [keyword "override", nameAhead ['\x7b']]),
  seq [keyword "readonly", nameAhead ['\x7b']]])

def parameterName (rules : Rules) : Parser := seq [
  decorators rules, many parameterModifier,
  field "pattern" (choice [node "this" (keyword "this"), rules .pattern])]

def parameterRest (rules : Rules) : Parser :=
  seq [opt (field "type" (typeNote rules)), opt (initializer rules)]

def parameter (rules : Rules) : Parser := headed (parameterName rules) [
  ("optional_parameter", seq [mark "?", parameterRest rules]),
  ("required_parameter", parameterRest rules)]

def formalParameters (rules : Rules) : Parser :=
  node "formal_parameters" (inParens (seq [commaSep (parameter rules), opt comma]))

end Parameters

end PatternInspector.TypeScript.Grammar
