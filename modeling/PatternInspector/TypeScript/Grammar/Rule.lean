import PatternInspector.Syntax.Parser

/-!
The rules of the TypeScript grammar that refer to each other.
-/
namespace PatternInspector.TypeScript.Grammar

inductive Rule where
  | program
  | statement
  | block
  | declaration
  /-- One expression or several with commas between them. -/
  | expressions
  | expression
  /-- Expressions whose binary operators bind at least as tightly as the level says. -/
  | binary (level : Nat)
  | unary
  /-- An operand with its members and calls. -/
  | member
  | pattern
  | type
  /-- A type without alternatives or conditions outside of brackets. -/
  | primaryType
  | objectType
  | formalParameters
  | classBody
  | arguments
  /-- An element of markup. -/
  | element

abbrev Rules := Rule → PatternInspector.Syntax.Parser

end PatternInspector.TypeScript.Grammar
