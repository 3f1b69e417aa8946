import PatternInspector.Java.Grammar.Type

/-!
Expressions of Java.
-/
namespace PatternInspector.Java.Grammar

open PatternInspector.Syntax
open PatternInspector.Syntax.Parser

section Primaries

def operandName : Parser := wordOf "identifier" expressionKeywords

def literal : Parser := choice [
  number, stringLiteral, characterLiteral,
  node "true" (keyword "true"), node "false" (keyword "false"),
  leaf "null_literal" true (keywordLength? "null")]

def argumentList (rules : Rule → Parser) : Parser :=
  node "argument_list" (inParens (commaSep (rules .expression)))

def parenthesized (rules : Rule → Parser) : Parser :=
  node "parenthesized_expression" (inParens (rules .expression))

def creation (rules : Rule → Parser) : Parser :=
  seq [keyword "new", many (rules .tag), opt (typeArguments rules),
    field "type" (simpleType rules), field "arguments" (argumentList rules),
    opt (rules .classBody)]

def objectCreation (rules : Rule → Parser) : Parser :=
  node "object_creation_expression" (creation rules)

def arrayInitializer (rules : Rule → Parser) : Parser :=
  node "array_initializer" (bracketed (seq [
    mark "\x7b", commaSep (rules .variableInitializer), opt comma, mark "\x7d"]))

def dimensionsExpression (rules : Rule → Parser) : Parser :=
  node "dimensions_expr" (seq [many (rules .tag),
    bracketed (seq [mark "[", rules .expression, mark "]"])])

def arrayCreation (rules : Rule → Parser) : Parser :=
  node "array_creation_expression" (seq [
    keyword "new", many (rules .tag), field "type" (simpleType rules), choice [
      seq [field "dimensions" (many1 (dimensionsExpression rules)),
        opt (field "dimensions" (dimensions rules))],
      seq [field "dimensions" (dimensions rules), field "value" (arrayInitializer rules)]]])

/-- A type that is no plain name, in front of its class object or a method. -/
def typeOperand (rules : Rule → Parser) : Parser := seq [
  ofKind ["generic_type", "array_type", "integral_type", "floating_point_type", "boolean_type",
    "void_type", "scoped_type_identifier"] (rules .plainType),
  choice [present (mark "::"), present (seq [mark ".", keyword "class"])]]

def methodCall (rules : Rule → Parser) : Parser :=
  node "method_invocation"
    (seq [field "name" operandName, field "arguments" (argumentList rules)])

def superOperand : Parser := seq [node "super" (keyword "super"),
  choice [present (mark "."), present (mark "::")]]

def primary (rules : Rule → Parser) : Parser := choice [
  literal, objectCreation rules, arrayCreation rules, parenthesized rules,
  node "this" (keyword "this"), superOperand, methodCall rules,
  node "switch_expression" (seq [keyword "switch", field "condition" (parenthesized rules),
    field "body" (rules .switchBlock)]),
  typeOperand rules, operandName]

def memberSuffixes (rules : Rule → Parser) : List Suffix := [
  ⟨"class_literal", none, seq [mark ".", keyword "class"], none⟩,
  ⟨"object_creation_expression", none, seq [mark ".", creation rules], none⟩,
  ⟨"field_access", some "object",
    seq [mark ".", field "field" (choice [node "this" (keyword "this"),
      node "super" (keyword "super")])], none⟩,
  ⟨"method_invocation", some "object", seq [mark ".", opt (typeArguments rules),
    field "name" identifier, field "arguments" (argumentList rules)], none⟩,
  ⟨"field_access", some "object", seq [mark ".", field "field" identifier], none⟩,
  ⟨"template_expression", some "template_processor",
    seq [mark ".", field "template_argument" stringLiteral], none⟩,
  ⟨"array_access", some "array",
    bracketed (seq [mark "[", field "index" (rules .expression), mark "]"]), none⟩,
  ⟨"method_reference", none, seq [mark "::", opt (typeArguments rules),
    choice [keyword "new", identifier]], none⟩]

end Primaries

section Operators

/-- A binary operator with its level; the texts that would make it another operator follow. -/
structure Operator where
  text : String
  level : Nat
  notBefore : List String := []

def operators : List Operator := [
  ⟨"||", 1, []⟩, ⟨"&&", 2, []⟩, ⟨"|", 3, ["|", "="]⟩, ⟨"^", 4, ["="]⟩, ⟨"&", 5, ["&", "="]⟩,
  ⟨"==", 6, []⟩, ⟨"!=", 6, []⟩, ⟨"<=", 7, []⟩, ⟨">=", 7, []⟩, ⟨"<", 7, ["<", "="]⟩,
  ⟨">", 7, [">", "="]⟩, ⟨"<<", 8, ["="]⟩, ⟨">>>", 8, ["="]⟩, ⟨">>", 8, [">", "="]⟩,
  ⟨"+", 9, ["+", "="]⟩, ⟨"-", 9, ["-", "=", ">"]⟩, ⟨"*", 10, ["="]⟩, ⟨"/", 10, ["="]⟩,
  ⟨"%", 10, ["="]⟩]

def instanceofLevel : Nat := 7

def binarySuffix (rules : Rule → Parser) (operator : Operator) : Suffix :=
  ⟨"binary_expression", some "left",
    seq [field "operator" (markNot operator.text operator.notBefore),
      field "right" (rules (.binary (operator.level + 1)))], none⟩

def instanceofSuffix (rules : Rule → Parser) : Suffix :=
  ⟨"instanceof_expression", some "left", seq [keyword "instanceof", opt (keyword "final"), choice [
    field "pattern" (rules .recordPattern),
    seq [field "right" (rules .type), opt (field "name" (wordOf "identifier" ["instanceof"]))]]], none⟩

def binary (rules : Rule → Parser) (level : Nat) : Parser :=
  grow
    ((if level ≤ instanceofLevel then [instanceofSuffix rules] else []) ++
      (operators.filter fun operator => level ≤ operator.level).map (binarySuffix rules))
    (rules .unary)

def assignmentOperator : Parser := choice ([
  markNot "=" ["="]] ++ ["+=", "-=", "*=", "/=", "&=", "|=", "^=", "%=", "<<=", ">>=", ">>>="].map
    mark)

def assignmentSuffix (rules : Rule → Parser) : Suffix :=
  ⟨"assignment_expression", some "left",
    seq [field "operator" assignmentOperator, field "right" (rules .expression)],
    some ["identifier", "field_access", "array_access"]⟩

/-- An operand with what may stand behind it: members, increments, or an assignment. -/
def operand (rules : Rule → Parser) : Parser :=
  growOnce [assignmentSuffix rules]
    (grow [⟨"update_expression", none, choice [mark "++", mark "--"], none⟩]
      (grow (memberSuffixes rules) (primary rules)))

def cast (rules : Rule → Parser) : Parser :=
  node "cast_expression" (seq [
    bracketed (seq [mark "(", sepBy1 (mark "&") (field "type" (rules .type)), mark ")"]),
    field "value" (rules .unary)])

def inferredParameters : Parser :=
  node "inferred_parameters" (inParens (commaSep1 identifier))

def arrowsAllowed : Parser := fun input => if input.mode.arrows then some ([], input) else none

def lambda (rules : Rule → Parser) : Parser :=
  node "lambda_expression" (seq [
    arrowsAllowed,
    field "parameters" (choice [
      seq [operandName, present (mark "->")],
      seq [groupBefore (startsWithAny ["->"]),
        choice [inferredParameters, formalParameters rules]]]),
    mark "->",
    field "body" (choice [rules .block, rules .expression])])

def unary (rules : Rule → Parser) : Parser := choice [
  lambda rules,
  node "update_expression" (seq [choice [mark "++", mark "--"], rules .unary]),
  node "unary_expression" (seq [
    field "operator" (choice [mark "+", mark "-", mark "!", mark "~"]),
    field "operand" (rules .unary)]),
  cast rules,
  operand rules]

/-- The condition of a choice between two expressions may be followed by both of them. -/
def expression (rules : Rule → Parser) : Parser :=
  growOnce [⟨"ternary_expression", some "condition", seq [
    mark "?", field "consequence" (under (fun mode => { mode with arrows := true })
      (rules .expression)),
    markNot ":" [":"], field "alternative" (rules .expression)], none⟩]
    (rules (.binary 0))

def variableInitializer (rules : Rule → Parser) : Parser :=
  choice [arrayInitializer rules, rules .expression]

end Operators

end PatternInspector.Java.Grammar
