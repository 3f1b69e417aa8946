/-!
The rules of the Java grammar that refer to each other.
-/
namespace PatternInspector.Java.Grammar

inductive Rule where
  | program
  | statement
  | block
  | expression
  /-- Expressions whose binary operators bind at least as tightly as the level says. -/
  | binary (level : Nat)
  | unary
  /-- A type, perhaps with annotations. -/
  | type
  /-- A type without annotations of its own. -/
  | plainType
  /-- An annotation. -/
  | tag
  | elementValue
  | variableInitializer
  | classBody
  | declaration
  | recordPattern
  | switchBlock

end PatternInspector.Java.Grammar
