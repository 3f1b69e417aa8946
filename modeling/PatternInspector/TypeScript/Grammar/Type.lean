import PatternInspector.TypeScript.Grammar.Lexical
import PatternInspector.TypeScript.Grammar.Rule

/-!
Types of TypeScript, signatures of functions, and the names of properties.
-/
namespace PatternInspector.TypeScript.Grammar

open PatternInspector.Syntax
open PatternInspector.Syntax.Parser

section Properties

def computedName (rules : Rules) : Parser :=
  node "computed_property_name" (inSquares (rules .expression))

def propertyName (rules : Rules) : Parser := choice [
  propertyIdentifier, privateName, string, number, computedName rules]

/-- Succeeds without reading if the name of a property may be next. -/
def nameAhead (others : List Char) : Parser := ahead fun text =>
  match text with
  | [] => false
  | c :: _ => isWordPart c || ['"', '\'', '[', '#', '\\'].contains c || others.contains c

def modifier (word : String) : Parser := seq [keyword word, nameAhead ['*']]

def accessibility : Parser :=
  node "accessibility_modifier" (choice (["public", "private", "protected"].map modifier))

def memberModifier : Parser := choice ([
  accessibility, node "override_modifier" (modifier "override")] ++
  ["static", "readonly", "abstract", "declare", "accessor", "async"].map modifier)

end Properties

section Signatures

def colonType (rules : Rules) : Parser := seq [mark ":", rules .type]

def typeNote (rules : Rules) : Parser := node "type_annotation" (colonType rules)

def constraint (rules : Rules) : Parser :=
  node "constraint" (seq [choice [keyword "extends", mark ":"], rules .type])

def typeParameter (rules : Rules) : Parser :=
  node "type_parameter" (seq [
    many (choice (["const", "in", "out"].map fun word =>
      seq [keyword word, nameAhead []])),
    field "name" typeIdentifier, opt (field "constraint" (constraint rules)),
    opt (field "value" (node "default_type" (seq [equals, rules .type])))])

def typeParameters (rules : Rules) : Parser :=
  node "type_parameters" (bracketed (seq [
    mark "<", commaSep1 (typeParameter rules), opt comma, mark ">"]))

def typeArguments (rules : Rules) : Parser :=
  node "type_arguments" (bracketed (seq [
    mark "<", commaSep1 (rules .type), opt comma, mark ">"]))

def predicateSubject : Parser := choice [
  node "this" (keyword "this"), wordOf "identifier" []]

def typePredicate (rules : Rules) : Parser :=
  node "type_predicate" (seq [
    field "name" predicateSubject, sameLine, keyword "is", field "type" (rules .type)])

def assertsPredicate (rules : Rules) : Parser :=
  node "asserts" (seq [keyword "asserts", sameLine, choice [typePredicate rules,
    seq [absent (keyword "is"), predicateSubject]]])

/-- The type of a result, or what a call says about its argument. -/
def resultType (rules : Rules) : Parser :=
  choice [assertsPredicate rules, typePredicate rules, rules .type]

def callSignature (rules : Rules) : Parser := seq [
  opt (field "type_parameters" (typeParameters rules)),
  field "parameters" (rules .formalParameters),
  opt (field "return_type" (node "type_annotation" (seq [mark ":", resultType rules])))]

end Signatures

section ObjectTypes

def constructSignature (rules : Rules) : Parser :=
  node "construct_signature" (seq [opt (modifier "abstract"), keyword "new",
    opt (field "type_parameters" (typeParameters rules)),
    field "parameters" (rules .formalParameters), opt (field "type" (typeNote rules))])

def mappedClause (rules : Rules) : Parser :=
  node "mapped_type_clause" (seq [field "name" typeIdentifier, keyword "in",
    field "type" (rules .type), opt (seq [keyword "as", field "alias" (rules .type)])])

def indexSignature (rules : Rules) : Parser :=
  node "index_signature" (seq [
    many (seq [choice [accessibility, keyword "static"], nameAhead []]),
    opt (seq [opt (choice [mark "-", mark "+"]), keyword "readonly"]),
    inSquares (choice [
      mappedClause rules,
      seq [field "name" anyName, mark ":", field "index_type" (rules .type)]]),
    opt (field "type" (node "type_annotation" (seq [
      opt (choice [mark "-?", mark "+?", mark "?"]), mark ":", rules .type])))])

def methodSignature (kind : String) (rules : Rules) : Parser :=
  node kind (seq [many memberModifier,
    opt (choice [modifier "get", modifier "set", mark "*"]), field "name" (propertyName rules),
    opt (mark "?"), callSignature rules])

def propertySignature (rules : Rules) : Parser :=
  node "property_signature" (seq [many memberModifier, field "name" (propertyName rules),
    opt (mark "?"), opt (field "type" (typeNote rules))])

def typeMember (rules : Rules) : Parser := choice [
  constructSignature rules, indexSignature rules,
  node "call_signature" (callSignature rules),
  methodSignature "method_signature" rules, propertySignature rules]

def memberEnd : Parser := choice [comma, semicolon]

/-- The members of an interface or of a type of objects. -/
def objectTypeBody (rules : Rules) : Parser :=
  inBraces (seq [opt (choice [comma, mark ";"]), many (seq [typeMember rules, memberEnd])])

def objectType (rules : Rules) : Parser := node "object_type" (objectTypeBody rules)

end ObjectTypes

section Types

def predefinedType : Parser := choice [
  node "predefined_type" (seq [keyword "unique", keyword "symbol"]),
  leaf "predefined_type" true fun text =>
    let word := wordAt text
    if ["any", "number", "boolean", "string", "symbol", "void", "unknown", "never",
        "object"].contains (String.ofList word)
    then some word.length else none]

def nestedTypeName : Parser :=
  node "nested_type_identifier" (seq [
    field "module" (grow
      [⟨"nested_identifier", some "object", seq [mark ".", field "property" propertyIdentifier,
        present (mark ".")], none⟩]
      anyName),
    mark ".", field "name" typeIdentifier])

def typeKeywords : List String :=
  ["typeof", "keyof", "new", "this", "true", "false", "null", "void", "import", "undefined"]

def typeReference (rules : Rules) : Parser :=
  grow [⟨"generic_type", some "name", field "type_arguments" (typeArguments rules),
      some ["type_identifier", "nested_type_identifier"]⟩]
    (choice [nestedTypeName, wordOf "type_identifier" typeKeywords])

/-- A name whose type is asked for, with members and calls. -/
def queriedName (rules : Rules) : Parser :=
  grow [
      ⟨"member_expression", some "object",
        seq [choice [mark ".", mark "?."],
          field "property" (choice [privateName, propertyIdentifier])], none⟩,
      ⟨"subscript_expression", some "object",
        inSquares (field "index" (choice [predefinedType, string, number])), none⟩,
      ⟨"call_expression", some "function", seq [sameLine, rules .arguments], none⟩,
      ⟨"instantiation_expression", some "function",
        field "type_arguments" (typeArguments rules), none⟩]
    (choice [leaf "import" true (keywordLength? "import"), node "this" (keyword "this"), anyName])

def tupleMember (rules : Rules) : Parser := choice [
  node "required_parameter" (seq [
    field "name" (choice [node "rest_pattern" (seq [mark "...", anyName]), anyName]),
    field "type" (typeNote rules)]),
  node "optional_parameter" (seq [
    field "name" anyName, mark "?", field "type" (typeNote rules)]),
  node "rest_type" (seq [mark "...", rules .type]),
  growOnce [⟨"optional_type", none, mark "?", none⟩] (rules .type)]

def literalType : Parser := node "literal_type" (choice [
  string, number, node "unary_expression" (seq [choice [mark "-", mark "+"], number]),
  node "true" (keyword "true"), node "false" (keyword "false"), node "null" (keyword "null"),
  node "undefined" (keyword "undefined")])

def templateType (rules : Rules) : Parser :=
  node "template_literal_type" (seq [mark "\x60", many (choice [
    templateChars,
    node "template_type" (bracketed (seq [adjacentMark "$\x7b", rules .type, mark "\x7d"]))]),
    adjacentMark "\x60"])

def basicType (rules : Rules) : Parser := choice [
  node "parenthesized_type" (inParens (rules .type)),
  literalType, templateType rules,
  seq [predefinedType, absent (mark ".")],
  node "type_query" (seq [keyword "typeof", queriedName rules]),
  seq [present (keyword "import"), queriedName rules],
  node "index_type_query" (seq [keyword "keyof", rules .primaryType]),
  node "readonly_type" (seq [keyword "readonly", rules .primaryType]),
  node "infer_type" (seq [keyword "infer", typeIdentifier,
    opt (seq [keyword "extends", rules .primaryType, absent (mark "?")])]),
  node "this_type" (keyword "this"),
  rules .objectType,
  node "tuple_type" (inSquares (seq [commaSep (tupleMember rules), opt comma])),
  node "existential_type" (mark "*"),
  node "flow_maybe_type" (seq [mark "?", rules .primaryType]),
  typeReference rules]

def primaryType (rules : Rules) : Parser :=
  grow [
      ⟨"array_type", none, seq [sameLine, mark "[", mark "]"], none⟩,
      ⟨"lookup_type", none, seq [sameLine, inSquares (rules .type)], none⟩]
    (basicType rules)

def intersectionType (rules : Rules) : Parser :=
  grow [⟨"intersection_type", none, seq [markNot "&" ["&", "="], rules .primaryType], none⟩]
    (choice [
      node "intersection_type" (seq [mark "&", rules .primaryType]), rules .primaryType])

def functionType (rules : Rules) : Parser :=
  node "function_type" (seq [
    opt (field "type_parameters" (typeParameters rules)),
    groupBefore (startsWithAny ["=>"]),
    field "parameters" (rules .formalParameters), mark "=>",
    field "return_type" (resultType rules)])

def constructorType (rules : Rules) : Parser :=
  node "constructor_type" (seq [opt (keyword "abstract"), keyword "new",
    opt (field "type_parameters" (typeParameters rules)),
    field "parameters" (rules .formalParameters), mark "=>", field "type" (rules .type)])

def unionMember (rules : Rules) : Parser :=
  choice [functionType rules, constructorType rules, intersectionType rules]

def unionType (rules : Rules) : Parser :=
  grow [⟨"union_type", none, seq [markNot "|" ["|", "="], unionMember rules], none⟩]
    (choice [
      node "union_type" (seq [markNot "|" ["|", "="], unionMember rules]), unionMember rules])

def type (rules : Rules) : Parser :=
  growOnce [⟨"conditional_type", some "left", seq [
      sameLine, keyword "extends", field "right" (rules .type), mark "?",
      field "consequence" (rules .type), mark ":", field "alternative" (rules .type)], none⟩]
    (unionType rules)

end Types

end PatternInspector.TypeScript.Grammar
