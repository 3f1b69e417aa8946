import PatternInspector.Java.Grammar.Lexical
import PatternInspector.Java.Grammar.Rule

/-!
Names, annotations and types of Java.
-/
namespace PatternInspector.Java.Grammar

open PatternInspector.Syntax
open PatternInspector.Syntax.Parser

section Names

/-- A name of one or more words with dots between them. -/
def qualifiedName : Parser :=
  grow [⟨"scoped_identifier", some "scope", seq [mark ".", field "name" identifier], none⟩] identifier

end Names

section Annotations

def elementValuePair (rules : Rule → Parser) : Parser :=
  node "element_value_pair"
    (seq [field "key" identifier, markNot "=" ["="], field "value" (rules .elementValue)])

def annotationArguments (rules : Rule → Parser) : Parser :=
  node "annotation_argument_list" (inParens (choice [
    seq [commaSep1 (elementValuePair rules), present (mark ")")],
    seq [rules .elementValue, present (mark ")")],
    done]))

def annotationMark : Parser := seq [
  absent (leaf "@interface" false (lengthIfStarts "@interface")), mark "@"]

def tag (rules : Rule → Parser) : Parser := choice [
  node "annotation" (seq [annotationMark, field "name" qualifiedName,
    field "arguments" (annotationArguments rules)]),
  node "marker_annotation" (seq [annotationMark, field "name" qualifiedName])]

def elementValue (rules : Rule → Parser) : Parser := choice [
  node "element_value_array_initializer" (bracketed (seq [
    mark "\x7b", commaSep (rules .elementValue), opt comma, mark "\x7d"])),
  rules .tag,
  rules .expression]

def nonSealed : Parser := leaf "non-sealed" false (lengthIfStarts "non-sealed")

def modifier (rules : Rule → Parser) : Parser :=
  choice [rules .tag, anyKeyword modifierKeywords, nonSealed]

def modifiers (rules : Rule → Parser) : Parser :=
  opt (node "modifiers" (many1 (modifier rules)))

end Annotations

section Types

def typeName : Parser := wordOf "type_identifier" primitiveTypes

def wildcard (rules : Rule → Parser) : Parser :=
  node "wildcard" (seq [many (rules .tag), mark "?", opt (choice [
    seq [keyword "extends", rules .type],
    seq [node "super" (keyword "super"), rules .type]])])

def typeArguments (rules : Rule → Parser) : Parser :=
  node "type_arguments" (bracketed (seq [
    mark "<", commaSep (choice [wildcard rules, rules .type]), mark ">"]))

def classType (rules : Rule → Parser) : Parser :=
  grow [
    ⟨"generic_type", none, typeArguments rules, none⟩,
    ⟨"scoped_type_identifier", none,
      seq [mark ".", many (rules .tag), wordOf "type_identifier" primitiveTypes], none⟩]
    typeName

def primitiveType : Parser := choice [
  node "void_type" (keyword "void"),
  node "integral_type" (anyKeyword ["byte", "short", "int", "long", "char"]),
  node "floating_point_type" (anyKeyword ["float", "double"]),
  leaf "boolean_type" true (keywordLength? "boolean")]

def simpleType (rules : Rule → Parser) : Parser := choice [primitiveType, classType rules]

def dimensions (rules : Rule → Parser) : Parser :=
  node "dimensions" (many1 (seq [many (rules .tag), mark "[", mark "]"]))

def plainType (rules : Rule → Parser) : Parser :=
  growOnce [⟨"array_type", some "element", field "dimensions" (dimensions rules), none⟩]
    (simpleType rules)

def type (rules : Rule → Parser) : Parser := choice [
  node "annotated_type" (seq [many1 (rules .tag), rules .plainType]),
  rules .plainType]

def typeList (rules : Rule → Parser) : Parser := node "type_list" (commaSep1 (rules .type))

def typeParameter (rules : Rule → Parser) : Parser :=
  node "type_parameter" (seq [many (rules .tag), wordOf "type_identifier" [],
    opt (node "type_bound" (seq [keyword "extends", sepBy1 (mark "&") (rules .type)]))])

def typeParameters (rules : Rule → Parser) : Parser :=
  node "type_parameters" (bracketed (seq [
    mark "<", commaSep1 (typeParameter rules), mark ">"]))

end Types

section Parameters

/-- The name of a variable, perhaps with the brackets of an array. -/
def variableName (rules : Rule → Parser) : Parser :=
  seq [field "name" identifier, opt (field "dimensions" (dimensions rules))]

def variableDeclarator (rules : Rule → Parser) : Parser :=
  node "variable_declarator" (seq [variableName rules,
    opt (seq [markNot "=" ["="], field "value" (rules .variableInitializer)])])

def variableDeclarators (rules : Rule → Parser) : Parser :=
  commaSep1 (field "declarator" (variableDeclarator rules))

def receiverParameter (rules : Rule → Parser) : Parser :=
  node "receiver_parameter" (seq [many (rules .tag), rules .plainType,
    many (seq [identifier, mark "."]), node "this" (keyword "this")])

def formalParameter (rules : Rule → Parser) : Parser :=
  node "formal_parameter"
    (seq [modifiers rules, field "type" (rules .plainType), variableName rules])

def spreadParameter (rules : Rule → Parser) : Parser :=
  node "spread_parameter" (seq [modifiers rules, rules .plainType, many (rules .tag),
    mark "...", many (rules .tag), variableDeclarator rules])

def formalParameters (rules : Rule → Parser) : Parser :=
  node "formal_parameters" (inParens (commaSep (choice [
    receiverParameter rules, spreadParameter rules, formalParameter rules])))

end Parameters

end PatternInspector.Java.Grammar
