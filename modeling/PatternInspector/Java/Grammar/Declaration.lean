import PatternInspector.Java.Grammar.Statement

/-!
Declarations of Java: modules, packages, imports, types and their members.
-/
namespace PatternInspector.Java.Grammar

open PatternInspector.Syntax
open PatternInspector.Syntax.Parser

section Members

def throwsClause (rules : Rule → Parser) : Parser :=
  opt (node "throws" (seq [keyword "throws", commaSep1 (rules .type)]))

/-- A type where a member may start, so that none of its keywords is a name. -/
def memberType (rules : Rule → Parser) : Parser := seq [
  notWord (modifierKeywords ++ declarationKeywords), field "type" (rules .plainType)]

def fieldDeclaration (kind : String) (rules : Rule → Parser) : Parser :=
  node kind (seq [modifiers rules, memberType rules, variableDeclarators rules, semicolon])

def methodDeclaration (rules : Rule → Parser) : Parser :=
  node "method_declaration" (seq [modifiers rules,
    opt (seq [field "type_parameters" (typeParameters rules), many (rules .tag)]),
    memberType rules, field "name" identifier,
    field "parameters" (formalParameters rules), opt (field "dimensions" (dimensions rules)),
    throwsClause rules, choice [field "body" (rules .block), semicolon]])

def explicitConstructorCall (rules : Rule → Parser) : Parser :=
  node "explicit_constructor_invocation" (seq [choice [
      seq [opt (field "type_arguments" (typeArguments rules)),
        field "constructor" (choice [node "this" (keyword "this"),
          node "super" (keyword "super")])],
      seq [field "object" (choice [parenthesized rules, operandName]), mark ".",
        opt (field "type_arguments" (typeArguments rules)),
        field "constructor" (node "super" (keyword "super"))]],
    field "arguments" (argumentList rules), semicolon])

def constructorName : Parser :=
  wordOf "identifier" (modifierKeywords ++ primitiveTypes ++ declarationKeywords)

def constructorDeclaration (rules : Rule → Parser) : Parser :=
  node "constructor_declaration" (seq [modifiers rules,
    opt (field "type_parameters" (typeParameters rules)),
    field "name" constructorName,
    field "parameters" (formalParameters rules), throwsClause rules,
    field "body" (node "constructor_body" (inBraces (seq [
      opt (explicitConstructorCall rules), many (rules .statement)])))])

def compactConstructor (rules : Rule → Parser) : Parser :=
  node "compact_constructor_declaration" (seq [modifiers rules,
    field "name" constructorName,
    field "body" (rules .block)])

def staticInitializer (rules : Rule → Parser) : Parser :=
  node "static_initializer" (seq [keyword "static", rules .block])

end Members

section Types

def superInterfaces (rules : Rule → Parser) : Parser :=
  opt (field "interfaces" (node "super_interfaces" (seq [keyword "implements", typeList rules])))

def permits (rules : Rule → Parser) : Parser :=
  opt (field "permits" (node "permits" (seq [keyword "permits", typeList rules])))

def optionalTypeParameters (rules : Rule → Parser) : Parser :=
  opt (field "type_parameters" (typeParameters rules))

def classDeclaration (rules : Rule → Parser) : Parser :=
  node "class_declaration" (seq [modifiers rules, keyword "class", field "name" identifier,
    optionalTypeParameters rules,
    opt (field "superclass" (node "superclass" (seq [keyword "extends", rules .type]))),
    superInterfaces rules, permits rules, field "body" (rules .classBody)])

def recordDeclaration (rules : Rule → Parser) : Parser :=
  node "record_declaration" (seq [modifiers rules, keyword "record", field "name" identifier,
    optionalTypeParameters rules, field "parameters" (formalParameters rules),
    superInterfaces rules, field "body" (rules .classBody)])

def interfaceMember (rules : Rule → Parser) : Parser := choice [
  semicolon, rules .declaration, methodDeclaration rules,
  fieldDeclaration "constant_declaration" rules]

def interfaceDeclaration (rules : Rule → Parser) : Parser :=
  node "interface_declaration" (seq [modifiers rules, keyword "interface",
    field "name" identifier, optionalTypeParameters rules,
    opt (node "extends_interfaces" (seq [keyword "extends", typeList rules])), permits rules,
    field "body" (node "interface_body" (inBraces (many (interfaceMember rules))))])

def annotationElement (rules : Rule → Parser) : Parser :=
  node "annotation_type_element_declaration" (seq [modifiers rules, memberType rules,
    field "name" identifier, mark "(", mark ")", opt (field "dimensions" (dimensions rules)),
    opt (seq [keyword "default", field "value" (rules .elementValue)]), semicolon])

def annotationTypeDeclaration (rules : Rule → Parser) : Parser :=
  node "annotation_type_declaration" (seq [modifiers rules, mark "@interface",
    field "name" identifier,
    field "body" (node "annotation_type_body" (inBraces (many (choice [
      semicolon, rules .declaration, annotationElement rules,
      fieldDeclaration "constant_declaration" rules]))))])

def classMember (rules : Rule → Parser) : Parser := choice [
  semicolon, staticInitializer rules, rules .block, rules .declaration,
  constructorDeclaration rules, compactConstructor rules, methodDeclaration rules,
  fieldDeclaration "field_declaration" rules]

def classBody (rules : Rule → Parser) : Parser :=
  node "class_body" (inBraces (many (classMember rules)))

def enumConstant (rules : Rule → Parser) : Parser :=
  node "enum_constant" (seq [modifiers rules, field "name" identifier,
    opt (field "arguments" (argumentList rules)), opt (field "body" (rules .classBody))])

def enumDeclaration (rules : Rule → Parser) : Parser :=
  node "enum_declaration" (seq [modifiers rules, keyword "enum", field "name" identifier,
    superInterfaces rules,
    field "body" (node "enum_body" (inBraces (seq [
      commaSep (enumConstant rules), opt comma,
      opt (node "enum_body_declarations" (seq [semicolon, many (classMember rules)]))])))])

end Types

def declaration (rules : Rule → Parser) : Parser := choice [
  classDeclaration rules, interfaceDeclaration rules, enumDeclaration rules,
  recordDeclaration rules, annotationTypeDeclaration rules]

section Units

def program (rules : Rule → Parser) : Parser :=
  node "program" (many (choice [
    rules .statement, seq [typeAhead rules, methodDeclaration rules]]))

end Units

end PatternInspector.Java.Grammar
