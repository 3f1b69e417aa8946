import PatternInspector.TypeScript.Grammar.Pattern
import PatternInspector.TypeScript.Report

/-!
Expressions of TypeScript.
-/
namespace PatternInspector.TypeScript.Grammar

open PatternInspector.Syntax
open PatternInspector.Syntax.Parser

section Literals

def spread (rules : Rules) : Parser := node "spread_element" (seq [mark "...", rules .expression])

def arguments (rules : Rules) : Parser :=
  node "arguments" (inParens (commaSepGaps (choice [spread rules, rules .expression])))

def array (rules : Rules) : Parser :=
  node "array" (inSquares (commaSepGaps (choice [spread rules, rules .expression])))

def methodHead (rules : Rules) : Parser := seq [
  many memberModifier, opt (choice [modifier "get", modifier "set", mark "*"]),
  field "name" (propertyName rules), opt (mark "?"), callSignature rules]

def method (rules : Rules) : Parser :=
  node "method_definition" (seq [methodHead rules, field "body" (rules .block)])

def objectMember (rules : Rules) : Parser := choice [
  spread rules,
  node "pair" (seq [field "key" (propertyName rules), mark ":", field "value" (rules .expression)]),
  seq [wordOf "shorthand_property_identifier" [], choice [present comma, present (mark "\x7d")]],
  method rules]

def object (rules : Rules) : Parser :=
  node "object" (inCurlies (commaSepGaps (objectMember rules)))

def template (rules : Rules) : Parser :=
  node "template_string" (seq [mark "\x60", many (choice [
    templateChars, escapeSequence,
    node "template_substitution"
      (bracketed (seq [adjacentMark "$\x7b", rules .expressions, mark "\x7d"]))]),
    adjacentMark "\x60"])

def parenthesized (rules : Rules) : Parser :=
  node "parenthesized_expression" (inParens (seq [rules .expressions, opt (typeNote rules)]))

end Literals

section Functions

def functionExpression (rules : Rules) : Parser :=
  headed (seq [opt (seq [keyword "async", sameLine]), keyword "function"]) [
    ("generator_function", seq [mark "*", opt (field "name" anyName), callSignature rules,
      field "body" (rules .block)]),
    ("function_expression", seq [opt (field "name" anyName), callSignature rules,
      field "body" (rules .block)])]

def arrowBody (rules : Rules) : Parser :=
  seq [mark "=>", field "body" (choice [
    seq [ahead fun text => text.head? == some '\x7b', rules .block],
    seq [ahead fun text => text.head? != some '\x7b', rules .expression]])]

/-- Succeeds without reading if a parameter list is next that belongs to a function in arrow
form. -/
def parametersAhead : Parser := fun input =>
  groupBefore (startsWithAny (if input.mode.arrows then ["=>", ":"] else ["=>"])) input

def arrowFunction (rules : Rules) : Parser := choice [
  node "arrow_function" (seq [
    opt (seq [keyword "async", sameLine, nameAhead []]),
    field "parameter" (wordOf "identifier" expressionKeywords), arrowBody rules]),
  node "arrow_function" (seq [
    opt (seq [keyword "async", sameLine]), choice [parametersAhead, present (mark "<")],
    callSignature rules, arrowBody rules])]

end Functions

section Classes

/-- What a class extends: an operand, so that no brace is taken for an object. -/
def extendsClause (rules : Rules) : Parser :=
  node "extends_clause" (seq [keyword "extends", commaSep1 (seq [
    field "value" (rules .member), opt (field "type_arguments" (typeArguments rules))])])

def implementsClause (rules : Rules) : Parser :=
  node "implements_clause" (seq [keyword "implements", commaSep1 (rules .type)])

def classHeritage (rules : Rules) : Parser := opt (node "class_heritage" (choice [
  seq [extendsClause rules, opt (implementsClause rules)], implementsClause rules]))

def classRest (rules : Rules) : Parser := seq [
  opt (field "type_parameters" (typeParameters rules)), classHeritage rules,
  field "body" (rules .classBody)]

def className : Parser := wordOf "type_identifier" ["extends", "implements"]

def classExpression (rules : Rules) : Parser :=
  node "class" (seq [decorators rules, keyword "class", opt (field "name" className),
    classRest rules])

end Classes

section Operands

def property : Parser := field "property" (choice [privateName, propertyIdentifier])

def optionalChain : Parser :=
  node "optional_chain" (markNot "?." ["0", "1", "2", "3", "4", "5", "6", "7", "8", "9"])

def accessSuffixes (rules : Rules) : List Suffix := [
  ⟨"member_expression", some "object", seq [markNot "." ["."], property], none⟩,
  ⟨"subscript_expression", some "object", inSquares (field "index" (rules .expressions)), none⟩,
  ⟨"non_null_expression", none, seq [sameLine, markNot "!" ["="]], none⟩]

def newExpression (rules : Rules) (operand : Parser) : Parser := choice [
  node "meta_property" (seq [keyword "new", mark ".", keyword "target"]),
  node "new_expression" (seq [keyword "new",
    field "constructor" (grow (accessSuffixes rules) operand),
    opt (seq [field "type_arguments" (typeArguments rules), present (mark "(")]),
    opt (field "arguments" (rules .arguments))])]

/-- What may follow a name with type arguments that is not called. -/
def endsInstantiation (text : Text) : Bool :=
  text.isEmpty || startsWithAny [")", "]", ",", ";", "\x7d", ":"] text

def callSuffixes (rules : Rules) : List Suffix := [
  ⟨"call_expression", some "function", field "arguments" (rules .arguments), none⟩,
  ⟨"call_expression", some "function", field "arguments" (template rules), none⟩,
  ⟨"call_expression", some "function", seq [
    field "type_arguments" (typeArguments rules),
    field "arguments" (choice [rules .arguments, template rules])], none⟩,
  ⟨"instantiation_expression", some "function", seq [
    field "type_arguments" (typeArguments rules), ahead endsInstantiation], none⟩,
  ⟨"member_expression", some "object", seq [
    field "optional_chain" optionalChain, property], none⟩,
  ⟨"subscript_expression", some "object", seq [
    field "optional_chain" optionalChain, inSquares (field "index" (rules .expressions))], none⟩,
  ⟨"call_expression", some "function", seq [
    field "optional_chain" optionalChain, opt (field "type_arguments" (typeArguments rules)),
    field "arguments" (rules .arguments)], none⟩]

def simpleOperand (rules : Rules) : Parser := choice [
  parenthesized rules, template rules, string, number, regex, array rules, object rules,
  node "this" (keyword "this"), node "super" (keyword "super"), node "null" (keyword "null"),
  node "true" (keyword "true"), node "false" (keyword "false"),
  functionExpression rules, classExpression rules,
  node "meta_property" (seq [keyword "import", mark ".", keyword "meta"]),
  seq [leaf "import" true (keywordLength? "import"),
    choice [present (mark "("), present (mark ".")]],
  seq [privateName, present (keyword "in")],
  identifier]

/-- Operands; markup is one only in the dialect that has it. -/
def operand (dialect : Dialect) (rules : Rules) : Parser :=
  match dialect with
  | .plain => simpleOperand rules
  | .markup => choice [simpleOperand rules, rules .element]

def member (dialect : Dialect) (rules : Rules) : Parser :=
  grow (accessSuffixes rules ++ callSuffixes rules) (choice [
    newExpression rules (choice [
      seq [present (keyword "new"), rules .member], operand dialect rules]),
    operand dialect rules])

end Operands

section Operators

/-- A binary operator with its level; the texts that would make it another operator follow. -/
structure Operator where
  text : String
  level : Nat
  notBefore : List String := []

def operators : List Operator := [
  ⟨"??", 1, ["="]⟩, ⟨"||", 2, ["="]⟩, ⟨"&&", 3, ["="]⟩, ⟨"|", 4, ["|", "="]⟩, ⟨"^", 5, ["="]⟩,
  ⟨"&", 6, ["&", "="]⟩, ⟨"===", 7, []⟩, ⟨"==", 7, ["="]⟩, ⟨"!==", 7, []⟩, ⟨"!=", 7, ["="]⟩,
  ⟨"<=", 8, []⟩, ⟨">=", 8, []⟩, ⟨"<", 8, ["<", "="]⟩, ⟨">", 8, [">", "="]⟩, ⟨"<<", 9, ["="]⟩,
  ⟨">>>", 9, ["="]⟩, ⟨">>", 9, [">", "="]⟩, ⟨"+", 10, ["+", "="]⟩, ⟨"-", 10, ["-", "="]⟩,
  ⟨"*", 11, ["*", "="]⟩, ⟨"/", 11, ["=", "/", "*"]⟩, ⟨"%", 11, ["="]⟩, ⟨"**", 12, ["="]⟩]

def relationLevel : Nat := 8

/-- The one operator that groups to the right. -/
def powerLevel : Nat := 12

def binarySuffix (rules : Rules) (operator : Operator) : Suffix :=
  let rightLevel := if operator.level == powerLevel then powerLevel else operator.level + 1
  ⟨"binary_expression", some "left",
    seq [field "operator" (markNot operator.text operator.notBefore),
      field "right" (rules (.binary rightLevel))], none⟩

def wordSuffixes (rules : Rules) : List Suffix := [
  ⟨"binary_expression", some "left", seq [
    field "operator" (anyKeyword ["instanceof", "in"]),
    field "right" (rules (.binary (relationLevel + 1)))], none⟩,
  ⟨"as_expression", none, seq [sameLine, keyword "as", choice [
    keyword "const", rules .type]], none⟩,
  ⟨"satisfies_expression", none, seq [sameLine, keyword "satisfies", rules .type], none⟩]

def binary (rules : Rules) (level : Nat) : Parser :=
  grow
    ((if level ≤ relationLevel then wordSuffixes rules else []) ++
      (operators.filter fun operator => level ≤ operator.level).map (binarySuffix rules))
    (rules .unary)

def assignmentSuffixes (rules : Rules) : List Suffix :=
  let targets := ["identifier", "undefined", "member_expression", "subscript_expression",
    "non_null_expression", "parenthesized_expression"]
  [⟨"assignment_expression", some "left",
      seq [equals, field "right" (rules .expression)], some targets⟩,
    ⟨"augmented_assignment_expression", some "left", seq [
      field "operator" (choice (["+=", "-=", "*=", "/=", "%=", "^=", "&=", "|=", ">>=", ">>>=",
        "<<=", "**=", "&&=", "||=", "??="].map mark)),
      field "right" (rules .expression)], some targets⟩]

def destructuringAssignment (rules : Rules) : Parser :=
  node "assignment_expression" (seq [
    groupBefore (fun text => startsWithAny ["="] text && !startsWithAny ["==", "=>"] text),
    field "left" (destructuring rules), equals, field "right" (rules .expression)])

def yieldExpression (rules : Rules) : Parser :=
  node "yield_expression" (seq [keyword "yield", choice [
    seq [mark "*", rules .expression],
    seq [sameLine, rules .expression],
    done]])

def updateMark : Parser := choice [mark "++", mark "--"]

def unaryOperator : Parser := choice [
  mark "!", mark "~", mark "-", mark "+", keyword "typeof", keyword "void", keyword "delete"]

def angled (dialect : Dialect) (rules : Rules) : Parser :=
  match dialect with
  | .plain => node "type_assertion" (seq [typeArguments rules, rules .unary])
  | .markup => fail

def unary (dialect : Dialect) (rules : Rules) : Parser := choice [
  arrowFunction rules,
  yieldExpression rules,
  node "await_expression" (seq [keyword "await", rules .unary]),
  node "update_expression" (seq [updateMark, rules .unary]),
  node "unary_expression" (seq [field "operator" unaryOperator, field "argument" (rules .unary)]),
  angled dialect rules,
  destructuringAssignment rules,
  growOnce (assignmentSuffixes rules)
    (grow [⟨"update_expression", none, seq [sameLine, updateMark], none⟩] (rules .member))]

def choiceMark : Parser := leaf "?" false fun text =>
  match text with
  | '?' :: '?' :: _ => none
  | '?' :: '.' :: c :: _ => if Text.isDigit c then some 1 else none
  | '?' :: _ => some 1
  | _ => none

/-- The first result of a choice. What looks like the result type of a function may also be the
second result. -/
def consequence (rules : Rules) : Parser := choice [
  seq [field "consequence" (under (fun mode => { mode with arrows := true }) (rules .expression)),
    mark ":"],
  seq [field "consequence" (under (fun mode => { mode with arrows := false }) (rules .expression)),
    mark ":"]]

def expression (rules : Rules) : Parser :=
  growOnce [⟨"ternary_expression", some "condition", seq [
      choiceMark, consequence rules, field "alternative" (rules .expression)], none⟩]
    (rules (.binary 0))

def expressions (rules : Rules) : Parser :=
  growOnce [⟨"sequence_expression", none, many1 (seq [comma, rules .expression]), none⟩]
    (rules .expression)

end Operators

end PatternInspector.TypeScript.Grammar
