import PatternInspector.TypeScript.Grammar.Statement

/-!
Declarations of TypeScript, and its statements of modules.
-/
namespace PatternInspector.TypeScript.Grammar

open PatternInspector.Syntax
open PatternInspector.Syntax.Parser

section Functions

/-- What follows the name of a declared function: a body, or nothing in a signature. -/
def functionRest (rules : Rules) : Parser :=
  seq [field "name" anyName, callSignature rules, field "body" (rules .block)]

def functionDeclaration (rules : Rules) : Parser :=
  headed (seq [opt (seq [keyword "async", sameLine]), keyword "function"]) [
    ("generator_function_declaration", seq [mark "*", functionRest rules]),
    ("function_declaration", functionRest rules),
    ("function_signature", seq [opt (mark "*"), field "name" anyName, callSignature rules,
      signatureEnd])]

end Functions

section Classes

def classDeclaration (rules : Rules) : Parser :=
  headed (decorators rules) [
    ("class_declaration", seq [keyword "class", field "name" className, classRest rules]),
    ("abstract_class_declaration", seq [keyword "abstract", keyword "class",
      field "name" className, classRest rules])]

def fieldDefinition (rules : Rules) : Parser :=
  node "public_field_definition" (seq [
    decorators rules, many memberModifier, field "name" (propertyName rules),
    opt (choice [mark "?", mark "!"]), opt (field "type" (typeNote rules)),
    opt (initializer rules)])

/-- A method, or its signature alone, which has to end like a field. -/
def methodMember (rules : Rules) : Parser := seq [
  headed (methodHead rules) [
    ("method_definition", field "body" (rules .block)),
    ("method_signature",
      seq [ahead fun text => text.head? != some '\x7b', present memberEnd])],
  opt (choice [comma, mark ";"])]

def classMember (rules : Rules) : Parser := choice [
  mark ";",
  node "class_static_block" (seq [keyword "static", field "body" (rules .block)]),
  seq [decorators rules, methodMember rules],
  seq [indexSignature rules, memberEnd],
  seq [fieldDefinition rules, memberEnd]]

def classBody (rules : Rules) : Parser :=
  node "class_body" (inBraces (many (classMember rules)))

end Classes

section Types

def interfaceDeclaration (rules : Rules) : Parser :=
  node "interface_declaration" (seq [keyword "interface",
    field "name" (wordOf "type_identifier" ["extends"]),
    opt (field "type_parameters" (typeParameters rules)),
    opt (node "extends_type_clause" (seq [
      keyword "extends", commaSep1 (field "type" (typeReference rules))])),
    field "body" (node "interface_body" (objectTypeBody rules))])

def enumMember (rules : Rules) : Parser := choice [
  node "enum_assignment" (seq [field "name" (propertyName rules), initializer rules]),
  field "name" (propertyName rules)]

def enumDeclaration (rules : Rules) : Parser :=
  node "enum_declaration" (seq [opt (keyword "const"), keyword "enum", field "name" anyName,
    field "body" (node "enum_body" (inCurlies (seq [commaSep (enumMember rules), opt comma])))])

def typeAlias (rules : Rules) : Parser :=
  node "type_alias_declaration" (seq [keyword "type", field "name" typeIdentifier,
    opt (field "type_parameters" (typeParameters rules)), equals,
    field "value" (rules .type), semicolon])

end Types

section Modules

def nestedIdentifier : Parser :=
  grow [⟨"nested_identifier", some "object",
    seq [mark ".", field "property" propertyIdentifier], none⟩] anyName

def moduleRest (rules : Rules) : Parser := seq [
  sameLine, field "name" (choice [string, nestedIdentifier]), opt (field "body" (rules .block))]

def importAlias : Parser :=
  node "import_alias" (seq [keyword "import", anyName, equals,
    absent (seq [keyword "require", mark "("]), nestedIdentifier, semicolon])

def ambientDeclaration (rules : Rules) : Parser :=
  node "ambient_declaration" (seq [keyword "declare", choice [
    rules .declaration,
    seq [keyword "global", rules .block],
    seq [keyword "module", mark ".", propertyIdentifier, mark ":", rules .type, semicolon]]])

def declaration (rules : Rules) : Parser := choice [
  functionDeclaration rules, classDeclaration rules, enumDeclaration rules,
  lexicalDeclaration rules, variableDeclaration rules, interfaceDeclaration rules,
  typeAlias rules,
  node "module" (seq [keyword "module", moduleRest rules]),
  node "internal_module" (seq [keyword "namespace", moduleRest rules]),
  importAlias, ambientDeclaration rules]

end Modules

section Exports

def moduleName (kind : String) : Parser := choice [string, wordOf kind []]

def fromClause : Parser := seq [keyword "from", field "source" string]

def importAttribute (rules : Rules) : Parser :=
  opt (node "import_attribute" (seq [anyKeyword ["with", "assert"], object rules]))

/-- A name in a list of names, perhaps with another name that it is known by. -/
def specifier (kind : String) : Parser :=
  node kind (choice [
    seq [anyKeyword ["type", "typeof"], field "name" (moduleName "identifier"),
      keyword "as", field "alias" (moduleName "identifier"),
      choice [present comma, present (mark "\x7d")]],
    seq [field "name" (moduleName "identifier"), keyword "as",
      field "alias" (moduleName "identifier"), choice [present comma, present (mark "\x7d")]],
    seq [anyKeyword ["type", "typeof"], field "name" (moduleName "identifier")],
    field "name" (moduleName "identifier")])

def specifiers (kind item : String) : Parser :=
  node kind (inCurlies (seq [commaSep (specifier item), opt comma]))

def namespaceExport : Parser :=
  node "namespace_export" (seq [mark "*", keyword "as", moduleName "identifier"])

def exportStatement (rules : Rules) : Parser := node "export_statement" (choice [
  seq [keyword "export", opt (keyword "type"), choice [
      seq [namespaceExport, fromClause],
      seq [mark "*", fromClause],
      seq [specifiers "export_clause" "export_specifier", opt fromClause]],
    importAttribute rules, semicolon],
  seq [keyword "export", equals, rules .expression, semicolon],
  seq [keyword "export", keyword "as", keyword "namespace", anyName, semicolon],
  seq [decorators rules, keyword "export", choice [
    seq [keyword "default", choice [
      field "declaration" (rules .declaration),
      seq [field "value" (rules .expression), semicolon]]],
    field "declaration" (rules .declaration)]]])

def importClause : Parser :=
  let group := choice [
    node "namespace_import" (seq [mark "*", keyword "as", anyName]),
    specifiers "named_imports" "import_specifier"]
  node "import_clause" (choice [group, seq [anyName, opt (seq [comma, group])]])

def importStatement (rules : Rules) : Parser :=
  let plain := choice [
    seq [importClause, fromClause],
    node "import_require_clause" (seq [anyName, equals, keyword "require",
      inParens (field "source" string)]),
    field "source" string]
  node "import_statement" (seq [keyword "import",
    choice [
      seq [plain, importAttribute rules, semicolon],
      seq [anyKeyword ["type", "typeof"], plain, importAttribute rules, semicolon]]])

end Exports

def statement (rules : Rules) : Parser := choice [
  exportStatement rules, importStatement rules, rules .declaration, plainStatement rules]

def hashBang : Parser := adjacent "hash_bang_line" true fun text =>
  if startsWithAny ["#!"] text then some (text.takeWhile (· != '\n')).length else none

def program (rules : Rules) : Parser :=
  node "program" (seq [opt hashBang, many (rules .statement)])

end PatternInspector.TypeScript.Grammar
