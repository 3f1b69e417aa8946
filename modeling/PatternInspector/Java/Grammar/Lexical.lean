import PatternInspector.Syntax.Lookahead
import PatternInspector.Text.IdentifierTable

/-!
Words, numbers and quoted texts of Java.

A word is a keyword only where the grammar asks for that keyword, so each place says which words it
does not take for identifiers.
-/
namespace PatternInspector.Java.Grammar

open PatternInspector.Syntax
open PatternInspector.Syntax.Parser

def isBlank (c : Char) : Bool := c == ' ' || (9 ≤ c.toNat && c.toNat ≤ 13)

def style : Style := {
  isBlank
  endsLine := fun c => c == '\n'
  lineComment := "line_comment"
  blockComment := "block_comment" }

section Words

def isWordStart (c : Char) : Bool :=
  if c.toNat < 128 then Text.isLetter c || c == '_' || c == '$'
  else Text.inRanges Text.identifierStartRanges c

def isWordPart (c : Char) : Bool :=
  isWordStart c || Text.isDigit c || c == '¢' ||
    (128 ≤ c.toNat && Text.inRanges Text.identifierMarkRanges c)

/-- The word at the start of a text, empty if there is none. -/
def wordAt : Text → Text
  | [] => []
  | c :: rest => if isWordStart c then c :: rest.takeWhile isWordPart else []

def keywordLength? (word : String) (text : Text) : Option Nat :=
  if wordAt text == word.toList then some word.length else none

def keyword (word : String) : Parser := leaf word false (keywordLength? word)

def anyKeyword (words : List String) : Parser := choice (words.map keyword)

def wordLength? (rejected : List String) (text : Text) : Option Nat :=
  match wordAt text with
  | [] => none
  | word => if rejected.contains (String.ofList word) then none else some word.length

/-- A word as a node, unless it is one of the rejected ones. -/
def wordOf (kind : String) (rejected : List String) : Parser :=
  leaf kind true (wordLength? rejected)

def identifier : Parser := wordOf "identifier" []

/-- Succeeds without reading if the next word is none of those. -/
def notWord (words : List String) : Parser := ahead fun text =>
  !words.contains (String.ofList (wordAt text))

def primitiveTypes : List String :=
  ["byte", "short", "int", "long", "char", "float", "double", "boolean", "void"]

def operandKeywords : List String := ["this", "super", "new", "true", "false", "null", "switch"]

def expressionKeywords : List String := operandKeywords ++ primitiveTypes

def modifierKeywords : List String := [
  "public", "protected", "private", "abstract", "static", "final", "strictfp", "default",
  "synchronized", "native", "transient", "volatile", "sealed"]

def declarationKeywords : List String := ["class", "interface", "enum"]

def statementKeywords : List String := [
  "if", "else", "while", "for", "do", "break", "continue", "return", "throw", "try", "catch",
  "finally", "assert", "case", "yield", "import", "package", "public", "protected", "private",
  "abstract", "static", "final", "strictfp", "default", "synchronized", "native", "transient",
  "volatile"] ++ declarationKeywords

end Words

section Numbers

def isHexDigit (c : Char) : Bool :=
  Text.isDigit c || ('a' ≤ c && c ≤ 'f') || ('A' ≤ c && c ≤ 'F')

def digitsLength (isDigitOf : Char → Bool) (text : Text) : Nat :=
  match text with
  | [] => 0
  | c :: _ =>
      if !isDigitOf c then 0
      else
        let run := text.takeWhile fun d => isDigitOf d || d == '_'
        (run.reverse.dropWhile (· == '_')).length

def exponentLength (marks : List Char) : Text → Nat
  | [] => 0
  | c :: rest =>
      if !marks.contains c then 0
      else
        let sign := match rest with
          | '+' :: _ => 1
          | '-' :: _ => 1
          | _ => 0
        match digitsLength Text.isDigit (rest.drop sign) with
        | 0 => 0
        | n => 1 + sign + n

def letterLength (letters : List Char) : Text → Nat
  | c :: _ => if letters.contains c then 1 else 0
  | [] => 0

/-- Length of what follows a point in a number, the point included. -/
def fractionLength (isDigitOf : Char → Bool) : Text → Nat
  | '.' :: rest => digitsLength isDigitOf rest + 1
  | _ => 0

def decimalLength (text : Text) : Nat :=
  let whole := digitsLength Text.isDigit text
  let fraction := fractionLength Text.isDigit (text.drop whole)
  if whole == 0 && fraction ≤ 1 then 0
  else
    let exponent := exponentLength ['e', 'E'] (text.drop (whole + fraction))
    let length := whole + fraction + exponent
    length + letterLength ['l', 'L', 'f', 'F', 'd', 'D'] (text.drop length)

/-- Length of a number with the base mark of hexadecimal numbers, which may have a fraction and a
binary exponent. -/
def hexLength (text : Text) : Nat :=
  let body := text.drop 2
  let whole := digitsLength isHexDigit body
  let fraction := fractionLength isHexDigit (body.drop whole)
  if whole == 0 && fraction ≤ 1 then 0
  else
    let length := 2 + whole + fraction
    let exponent := exponentLength ['p', 'P'] (text.drop length)
    if exponent == 0 then
      length + (if fraction == 0 then letterLength ['l', 'L'] (text.drop length) else 0)
    else length + exponent + letterLength ['f', 'F', 'd', 'D'] (text.drop (length + exponent))

/-- Length of a number with another base mark of two characters. -/
def basedLength (text : Text) : Nat :=
  match digitsLength Text.isDigit (text.drop 2) with
  | 0 => 0
  | digits => 2 + digits + letterLength ['l', 'L'] (text.drop (2 + digits))

def numberLength? (text : Text) : Option Nat :=
  let marked := match text with
    | '0' :: c :: _ =>
        if c == 'x' || c == 'X' then hexLength text
        else if ['b', 'B', 'o', 'O'].contains c then basedLength text
        else 0
    | _ => 0
  let length := if marked == 0 then decimalLength text else marked
  if length == 0 then none else some length

def number : Parser := leaf "decimal_integer_literal" true numberLength?

end Numbers

section Quotes

/-- Whether hexadecimal digits, as many as asked for, start the text. -/
def startsWithHex (count : Nat) (text : Text) : Bool :=
  count ≤ ((text.take count).takeWhile isHexDigit).length

def isEscape : Text → Bool
  | 'x' :: rest => startsWithHex 2 rest
  | 'u' :: '\x7b' :: rest =>
      startsWithHex 1 rest && (rest.dropWhile isHexDigit).head? == some '\x7d'
  | 'u' :: rest => startsWithHex 4 rest
  | rest => !rest.isEmpty

def quotedLength? : Text → Option Nat
  | [] => none
  | '"' :: _ => some 1
  | '\\' :: c :: rest =>
      if isEscape (c :: rest) then (quotedLength? rest).map (· + 2) else none
  | _ :: rest => (quotedLength? rest).map (· + 1)

def textBlockLength? : Text → Option Nat
  | '"' :: '"' :: '"' :: _ => some 3
  | '\\' :: _ :: rest => (textBlockLength? rest).map (· + 2)
  | _ :: rest => (textBlockLength? rest).map (· + 1)
  | [] => none

def stringLength? : Text → Option Nat
  | '"' :: '"' :: '"' :: rest => (textBlockLength? rest).map (· + 3)
  | '"' :: rest => (quotedLength? rest).map (· + 1)
  | _ => none

def stringLiteral : Parser := leaf "string_literal" true stringLength?

/-- Length of characters up to and including the closing quote on the same line. -/
def charactersLength? : Text → Option Nat
  | [] => none
  | '\'' :: _ => some 1
  | '\n' :: _ => none
  | '\\' :: _ :: rest => (charactersLength? rest).map (· + 2)
  | _ :: rest => (charactersLength? rest).map (· + 1)

def characterLength? : Text → Option Nat
  | '\'' :: '\'' :: _ => none
  | '\'' :: rest => (charactersLength? rest).map (· + 1)
  | _ => none

def characterLiteral : Parser := leaf "character_literal" true characterLength?

end Quotes

section Lists

def comma : Parser := mark ","

def commaSep (item : Parser) : Parser := sepBy comma item

def commaSep1 (item : Parser) : Parser := sepBy1 comma item

def inParens (parser : Parser) : Parser := bracketed (seq [mark "(", parser, mark ")"])

def inBraces (parser : Parser) : Parser := inBlock (seq [mark "\x7b", parser, mark "\x7d"])

end Lists

end PatternInspector.Java.Grammar
