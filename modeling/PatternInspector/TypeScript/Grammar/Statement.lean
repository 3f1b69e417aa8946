import PatternInspector.TypeScript.Grammar.Expression

/-!
Statements of TypeScript.
-/
namespace PatternInspector.TypeScript.Grammar

open PatternInspector.Syntax
open PatternInspector.Syntax.Parser

section Variables

def declarator (rules : Rules) : Parser :=
  node "variable_declarator" (seq [
    field "name" (choice [destructuring rules, anyName]),
    opt (mark "!"), opt (field "type" (typeNote rules)), opt (initializer rules)])

def variableDeclaration (rules : Rules) : Parser :=
  node "variable_declaration" (seq [
    keyword "var", commaSep1 (declarator rules), semicolon])

def lexicalDeclaration (rules : Rules) : Parser :=
  node "lexical_declaration" (seq [
    field "kind" (anyKeyword ["let", "const"]), commaSep1 (declarator rules), semicolon])

end Variables

section Loops

def condition (name : String) (rules : Rules) : Parser := field name (parenthesized rules)

def body (rules : Rules) : Parser := field "body" (rules .statement)

def forHeader (rules : Rules) : Parser := inParens (seq [
  choice [
    seq [field "kind" (anyKeyword ["var", "let", "const"]),
      field "left" (choice [destructuring rules, anyName]), opt (initializer rules),
      present (anyKeyword ["in", "of"])],
    seq [field "left" (choice [rules .pattern, parenthesized rules]),
      present (anyKeyword ["in", "of"])]],
  field "operator" (anyKeyword ["in", "of"]), field "right" (rules .expressions)])

def forInStatement (rules : Rules) : Parser :=
  node "for_in_statement" (seq [
    keyword "for", opt (keyword "await"), forHeader rules, body rules])

def emptyStatement : Parser := node "empty_statement" (mark ";")

def forStatement (rules : Rules) : Parser :=
  node "for_statement" (seq [keyword "for",
    inParens (seq [
      field "initializer" (choice [
        lexicalDeclaration rules, variableDeclaration rules, emptyStatement,
        seq [rules .expressions, mark ";"]]),
      field "condition" (choice [emptyStatement, seq [rules .expressions, mark ";"]]),
      opt (field "increment" (rules .expressions))]),
    body rules])

def whileStatement (rules : Rules) : Parser :=
  node "while_statement" (seq [keyword "while", condition "condition" rules, body rules])

def doStatement (rules : Rules) : Parser :=
  node "do_statement" (seq [keyword "do", body rules, keyword "while",
    condition "condition" rules, opt semicolon])

end Loops

section Branches

def ifStatement (rules : Rules) : Parser :=
  node "if_statement" (seq [keyword "if", condition "condition" rules,
    field "consequence" (rules .statement),
    opt (field "alternative" (node "else_clause" (seq [keyword "else", rules .statement])))])

def switchCase (rules : Rules) : Parser := choice [
  node "switch_case" (seq [keyword "case", field "value" (rules .expressions), mark ":",
    many (body rules)]),
  node "switch_default" (seq [keyword "default", mark ":", many (body rules)])]

def switchStatement (rules : Rules) : Parser :=
  node "switch_statement" (seq [keyword "switch", condition "value" rules,
    field "body" (node "switch_body" (inBraces (many (switchCase rules))))])

def catchClause (rules : Rules) : Parser :=
  node "catch_clause" (seq [keyword "catch",
    opt (inParens (seq [
      field "parameter" (choice [destructuring rules, anyName]),
      opt (field "type" (typeNote rules))])),
    field "body" (rules .block)])

def tryStatement (rules : Rules) : Parser :=
  node "try_statement" (seq [keyword "try", field "body" (rules .block),
    opt (field "handler" (catchClause rules)),
    opt (field "finalizer" (node "finally_clause" (seq [
      keyword "finally", field "body" (rules .block)])))])

end Branches

section Jumps

def jump (kind word : String) : Parser :=
  node kind (seq [keyword word,
    opt (seq [absent automaticEnd, field "label" (wordOf "statement_identifier" [])]), semicolon])

def returnStatement (rules : Rules) : Parser :=
  node "return_statement" (seq [keyword "return", choice [
    seq [automaticEnd, semicolon],
    seq [opt (rules .expressions), semicolon]]])

def throwStatement (rules : Rules) : Parser :=
  node "throw_statement" (seq [keyword "throw", rules .expressions, semicolon])

def labeledStatement (rules : Rules) : Parser :=
  node "labeled_statement" (seq [
    field "label" (wordOf "statement_identifier" (expressionKeywords ++ statementKeywords)),
    mark ":", body rules])

def withStatement (rules : Rules) : Parser :=
  node "with_statement" (seq [keyword "with", condition "object" rules, body rules])

end Jumps

def expressionStatement (rules : Rules) : Parser :=
  node "expression_statement" (seq [
    notWord statementKeywords, rules .expressions, semicolon])

def block (rules : Rules) : Parser :=
  node "statement_block" (inBraces (many (rules .statement)))

def plainStatement (rules : Rules) : Parser := choice [
  rules .block, emptyStatement, ifStatement rules, forInStatement rules, forStatement rules,
  whileStatement rules, doStatement rules, switchStatement rules, tryStatement rules,
  withStatement rules, jump "break_statement" "break", jump "continue_statement" "continue",
  node "debugger_statement" (seq [keyword "debugger", semicolon]),
  returnStatement rules, throwStatement rules, labeledStatement rules,
  expressionStatement rules]

end PatternInspector.TypeScript.Grammar
