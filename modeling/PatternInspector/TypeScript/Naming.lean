import PatternInspector.Text.Case
import PatternInspector.Value.Basic

/-!
Naming styles: which names follow a style, and what a name becomes in it.

A name follows a style also if a single newline stands at its end.
-/
namespace PatternInspector.TypeScript

inductive NamingStyle where
  | pascalCase
  | camelCase
  | upperCase
  | snakeCase
  deriving DecidableEq

namespace NamingStyle

def label : NamingStyle → String
  | .pascalCase => "PascalCase"
  | .camelCase => "camelCase"
  | .upperCase => "UPPER_CASE"
  | .snakeCase => "snake_case"

def all : List NamingStyle := [.pascalCase, .camelCase, .upperCase, .snakeCase]

def ofLabel? (label : String) : Option NamingStyle := all.find? (·.label == label)

def toValue (style : NamingStyle) : Value := .string style.label

section Matching

/-- Whether characters of a class, perhaps followed by one newline, make up the text. -/
def allUpToNewline (accepts : Char → Bool) : Text → Bool
  | [] => true
  | ['\n'] => true
  | c :: rest => accepts c && allUpToNewline accepts rest

def startsAndContinues (first others : Char → Bool) : Text → Bool
  | [] => false
  | c :: rest => first c && allUpToNewline others rest

def isAlphanumeric (c : Char) : Bool := Text.isLetter c || Text.isDigit c

/-- Whether a name follows the style. Names without lower-case letters are in upper case, whatever
else they hold. -/
def accepts : NamingStyle → Text → Bool
  | .pascalCase => startsAndContinues Text.isUpperLetter isAlphanumeric
  | .camelCase => startsAndContinues Text.isLowerLetter isAlphanumeric
  | .upperCase => fun name => name.all fun c => !Text.isLowerLetter c
  | .snakeCase => startsAndContinues Text.isLowerLetter fun c =>
      Text.isLowerLetter c || Text.isDigit c || c == '_'

end Matching

section Converting

def asciiUpper (c : Char) : Char := if Text.isLowerLetter c then Char.ofNat (c.toNat - 32) else c

/-- Writes an underscore and the lower-case letter after it as the upper-case letter. -/
def joinWords : Text → Text
  | [] => []
  | ['_'] => ['_']
  | '_' :: c :: rest =>
      if Text.isLowerLetter c then asciiUpper c :: joinWords rest else '_' :: joinWords (c :: rest)
  | c :: rest => c :: joinWords rest

def toPascal (name : Text) : Text := joinWords (Text.upper (name.take 1) ++ name.drop 1)

def toCamel (name : Text) : Text := joinWords (Text.lower (name.take 1) ++ name.drop 1)

/-- Puts an underscore before each upper-case letter that follows a lower-case letter or a digit. -/
def splitWords : Text → Text
  | [] => []
  | [c] => [c]
  | c :: d :: rest =>
      if (Text.isLowerLetter c || Text.isDigit c) && Text.isUpperLetter d then
        c :: '_' :: splitWords (d :: rest)
      else c :: splitWords (d :: rest)

def toSnake (name : Text) : Text := Text.lower (splitWords name)

/-- The name brought closer to the style. The result need not follow it. -/
def convert : NamingStyle → Text → Text
  | .pascalCase, name => toPascal name
  | .camelCase, name => toCamel name
  | .upperCase, name => Text.upper (toSnake name)
  | .snakeCase, name => toSnake name

end Converting

end NamingStyle

end PatternInspector.TypeScript
