import PatternInspector.Java.Grammar.Expression

/-!
Statements of Java.
-/
namespace PatternInspector.Java.Grammar

open PatternInspector.Syntax
open PatternInspector.Syntax.Parser

def semicolon : Parser := mark ";"

section Units

def packageDeclaration (rules : Rule → Parser) : Parser :=
  node "package_declaration" (seq [many (rules .tag), keyword "package", qualifiedName,
    semicolon])

def importDeclaration : Parser :=
  node "import_declaration" (seq [keyword "import", opt (keyword "static"), qualifiedName,
    opt (seq [mark ".", node "asterisk" (mark "*")]), semicolon])

def moduleDirective : Parser := choice [
  node "requires_module_directive" (seq [keyword "requires",
    many (node "requires_modifier" (seq [anyKeyword ["transitive", "static"],
      absent semicolon])), qualifiedName, semicolon]),
  node "exports_module_directive" (seq [keyword "exports", qualifiedName,
    opt (seq [keyword "to", commaSep1 qualifiedName]), semicolon]),
  node "opens_module_directive" (seq [keyword "opens", qualifiedName,
    opt (seq [keyword "to", commaSep1 qualifiedName]), semicolon]),
  node "uses_module_directive" (seq [keyword "uses", qualifiedName, semicolon]),
  node "provides_module_directive" (seq [keyword "provides", qualifiedName, keyword "with",
    commaSep1 qualifiedName, semicolon])]

def moduleDeclaration (rules : Rule → Parser) : Parser :=
  node "module_declaration" (seq [many (rules .tag), opt (keyword "open"),
    keyword "module", field "name" qualifiedName,
    field "body" (node "module_body" (inBraces (many moduleDirective)))])

def unitDeclaration (rules : Rule → Parser) : Parser :=
  choice [importDeclaration, packageDeclaration rules, moduleDeclaration rules]

end Units

section Switches

def recordPatternComponent (rules : Rule → Parser) : Parser :=
  node "record_pattern_component" (choice [
    seq [rules .plainType, identifier],
    node "underscore_pattern" (keyword "_")])

def recordPattern (rules : Rule → Parser) : Parser :=
  node "record_pattern" (seq [classType rules,
    node "record_pattern_body" (inParens (commaSep (choice [
      rules .recordPattern, recordPatternComponent rules]))),
    opt (wordOf "identifier" ["when", "instanceof"])])

def pattern (rules : Rule → Parser) : Parser := node "pattern" (choice [
  rules .recordPattern,
  node "type_pattern" (seq [rules .plainType, wordOf "identifier" ["when"]])])

/-- What stands before the arrow or colon of a case, where an arrow belongs to the case. -/
def switchLabel (rules : Rule → Parser) : Parser :=
  node "switch_label" (under (fun mode => { mode with arrows := false }) (choice [
    seq [keyword "case", choice [
        seq [pattern rules, absent comma],
        commaSep1 (rules .expression)],
      opt (node "guard" (seq [keyword "when", rules .expression]))],
    keyword "default"]))

def throwStatement (rules : Rule → Parser) : Parser :=
  node "throw_statement" (seq [keyword "throw", rules .expression, semicolon])

def expressionStatement (rules : Rule → Parser) : Parser :=
  node "expression_statement" (seq [rules .expression, semicolon])

def switchRule (rules : Rule → Parser) : Parser :=
  node "switch_rule" (seq [switchLabel rules, mark "->", choice [
    rules .block, throwStatement rules, expressionStatement rules]])

def switchGroup (rules : Rule → Parser) : Parser :=
  node "switch_block_statement_group" (seq [
    many1 (seq [switchLabel rules, mark ":"]), many (rules .statement)])

def switchBlock (rules : Rule → Parser) : Parser :=
  node "switch_block" (inBraces (choice [
    seq [many (switchRule rules), present (mark "\x7d")],
    many (switchGroup rules)]))

end Switches

section Simple

/-- Succeeds without reading at a modifier, or at a word with which a type may start where a
statement may start as well. -/
def typeAhead (rules : Rule → Parser) : Parser :=
  choice [present (modifier rules), notWord (statementKeywords ++ operandKeywords)]

def localVariables (rules : Rule → Parser) : Parser :=
  node "local_variable_declaration" (seq [typeAhead rules,
    modifiers rules, notWord declarationKeywords, field "type" (rules .plainType),
    notWord ["instanceof"], variableDeclarators rules, semicolon])

def jump (kind word : String) : Parser :=
  node kind (seq [keyword word, opt identifier, semicolon])

def returnStatement (rules : Rule → Parser) : Parser :=
  node "return_statement" (seq [keyword "return", opt (rules .expression), semicolon])

def assertStatement (rules : Rule → Parser) : Parser :=
  node "assert_statement" (seq [keyword "assert", rules .expression,
    opt (seq [mark ":", rules .expression]), semicolon])

def yieldStatement (rules : Rule → Parser) : Parser :=
  node "yield_statement" (seq [keyword "yield", rules .expression, semicolon])

end Simple

section Compound

def condition (rules : Rule → Parser) : Parser := field "condition" (parenthesized rules)

def ifStatement (rules : Rule → Parser) : Parser :=
  node "if_statement" (seq [keyword "if", condition rules,
    field "consequence" (rules .statement),
    opt (seq [keyword "else", field "alternative" (rules .statement)])])

def whileStatement (rules : Rule → Parser) : Parser :=
  node "while_statement" (seq [keyword "while", condition rules, field "body" (rules .statement)])

def doStatement (rules : Rule → Parser) : Parser :=
  node "do_statement" (seq [keyword "do", field "body" (rules .statement), keyword "while",
    condition rules, semicolon])

def forStatement (rules : Rule → Parser) : Parser :=
  node "for_statement" (seq [keyword "for",
    bracketed (seq [mark "(",
      choice [
        field "init" (localVariables rules),
        seq [commaSep (field "init" (rules .expression)), semicolon]],
      opt (field "condition" (rules .expression)), semicolon,
      commaSep (field "update" (rules .expression)), mark ")"]),
    field "body" (rules .statement)])

def enhancedForStatement (rules : Rule → Parser) : Parser :=
  node "enhanced_for_statement" (seq [keyword "for",
    bracketed (seq [mark "(", modifiers rules, field "type" (rules .plainType),
      variableName rules, mark ":", field "value" (rules .expression), mark ")"]),
    field "body" (rules .statement)])

def synchronizedStatement (rules : Rule → Parser) : Parser :=
  node "synchronized_statement" (seq [keyword "synchronized", parenthesized rules,
    field "body" (rules .block)])

def catchClause (rules : Rule → Parser) : Parser :=
  node "catch_clause" (seq [keyword "catch",
    inParens (node "catch_formal_parameter" (seq [modifiers rules,
      node "catch_type" (sepBy1 (mark "|") (rules .plainType)), variableName rules])),
    field "body" (rules .block)])

def finallyClause (rules : Rule → Parser) : Parser :=
  node "finally_clause" (seq [keyword "finally", rules .block])

def resource (rules : Rule → Parser) : Parser :=
  node "resource" (choice [
    seq [modifiers rules, field "type" (rules .plainType), variableName rules, mark "=",
      field "value" (rules .expression)],
    ofKind ["identifier", "field_access"] (rules .expression)])

def tryWithResources (rules : Rule → Parser) : Parser :=
  node "try_with_resources_statement" (seq [keyword "try",
    field "resources" (node "resource_specification" (inParens (seq [
      sepBy1 semicolon (resource rules), opt semicolon]))),
    field "body" (rules .block), many (catchClause rules), opt (finallyClause rules)])

def tryStatement (rules : Rule → Parser) : Parser :=
  node "try_statement" (seq [keyword "try", field "body" (rules .block), choice [
    seq [many (catchClause rules), finallyClause rules],
    many1 (catchClause rules)]])

def labeledStatement (rules : Rule → Parser) : Parser :=
  node "labeled_statement" (seq [
    wordOf "identifier" (expressionKeywords ++ statementKeywords), markNot ":" [":"],
    rules .statement])

end Compound

def block (rules : Rule → Parser) : Parser :=
  node "block" (inBraces (many (rules .statement)))

def statement (rules : Rule → Parser) : Parser := choice [
  rules .block, semicolon, ifStatement rules, whileStatement rules, enhancedForStatement rules,
  forStatement rules, doStatement rules, tryWithResources rules, tryStatement rules,
  jump "break_statement" "break", jump "continue_statement" "continue", returnStatement rules,
  throwStatement rules, assertStatement rules, synchronizedStatement rules,
  rules .declaration, unitDeclaration rules, yieldStatement rules, labeledStatement rules,
  localVariables rules,
  seq [notWord statementKeywords, choice [
    expressionStatement rules,
    node "switch_expression" (seq [keyword "switch", condition rules,
      field "body" (rules .switchBlock)])]]]

end PatternInspector.Java.Grammar
