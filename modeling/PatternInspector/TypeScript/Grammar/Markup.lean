import PatternInspector.TypeScript.Grammar.Pattern

/-!
Markup in expressions: elements with attributes, text, and expressions in braces.
-/
namespace PatternInspector.TypeScript.Grammar

open PatternInspector.Syntax
open PatternInspector.Syntax.Parser

section Names

def markupNameLength? (text : Text) : Option Nat :=
  match wordAt text with
  | [] => none
  | _ => some ((text.takeWhile fun c => isWordPart c || c == '-').length)

def markupName (kind : String) : Parser := leaf kind true markupNameLength?

def spacedName : Parser :=
  node "jsx_namespace_name" (seq [markupName "identifier", mark ":", markupName "identifier"])

def hyphenatedName : Parser := leaf "identifier" true fun text =>
  match markupNameLength? text with
  | none => none
  | some length => if (text.take length).contains '-' then some length else none

def elementName : Parser := choice [
  spacedName, hyphenatedName,
  grow [⟨"member_expression", some "object", seq [mark ".", field "property" propertyIdentifier],
    none⟩] anyName]

def attributeName : Parser := choice [spacedName, markupName "property_identifier"]

end Names

section Contents

def markupExpression (rules : Rules) : Parser :=
  node "jsx_expression" (inCurlies (opt (choice [
    node "spread_element" (seq [mark "...", rules .expression]), rules .expressions])))

def markupString : Parser := leaf "string" true fun text =>
  match text with
  | c :: rest =>
      if (c == '"' || c == '\'') && rest.contains c then
        some ((rest.takeWhile (· != c)).length + 2)
      else none
  | [] => none

def markupAttribute (rules : Rules) : Parser := choice [
  markupExpression rules,
  node "jsx_attribute" (seq [attributeName,
    opt (seq [mark "=", choice [markupString, markupExpression rules, rules .element]])])]

def isMarkupText (c : Char) : Bool := !(['<', '>', '\x7b', '\x7d', '&'].contains c)

def markupText : Parser := adjacent "jsx_text" true fun text =>
  match (text.takeWhile isMarkupText).length with
  | 0 => none
  | n => some n

def referenceBodyLength : Text → Nat
  | '#' :: c :: rest =>
      if c == 'x' || c == 'X' then (rest.takeWhile isHexDigit).length + 2
      else ((c :: rest).takeWhile Text.isDigit).length + 1
  | text => (text.takeWhile fun c => Text.isLetter c || Text.isDigit c).length

def characterReference : Parser := adjacent "html_character_reference" true fun text =>
  match text with
  | '&' :: rest =>
      let length := referenceBodyLength rest
      if 0 < length && (rest.drop length).head? == some ';' then some (length + 2) else none
  | _ => none

end Contents

def closingTag : Parser :=
  node "jsx_closing_element" (seq [
    mark "<", mark "/", opt (field "name" elementName), mark ">"])

def element (rules : Rules) : Parser :=
  node "jsx_element" (seq [
    markNot "<" ["/", "<", "="],
    opt (seq [field "name" elementName, opt (field "type_arguments" (typeArguments rules)),
      many (field "attribute" (markupAttribute rules))]),
    choice [
      seq [mark "/", mark ">"],
      seq [mark ">",
        many (choice [
          markupText, characterReference, markupExpression rules, rules .element]),
        field "close_tag" closingTag]]])

end PatternInspector.TypeScript.Grammar
