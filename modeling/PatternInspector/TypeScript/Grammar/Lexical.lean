import PatternInspector.Syntax.Lookahead

/-!
Words, numbers, quoted texts and statement ends of TypeScript.

A word is a keyword only where the grammar asks for that keyword, so each place says which words it
does not take for identifiers.
-/
namespace PatternInspector.TypeScript.Grammar

open PatternInspector.Syntax
open PatternInspector.Syntax.Parser

section Characters

def isBlank (c : Char) : Bool :=
  Text.inRanges [
    (0x09, 0x0d), (0x20, 0x20), (0xa0, 0xa0), (0x1680, 0x1680), (0x2000, 0x200b),
    (0x2028, 0x2029), (0x202f, 0x202f), (0x205f, 0x2060), (0x3000, 0x3000), (0xfeff, 0xfeff)] c

def style : Style := {
  isBlank
  endsLine := fun c => ['\n', '\r', '\u2028', '\u2029'].contains c
  lineComment := "comment"
  blockComment := "comment" }

def punctuation : List Char :=
  ":;\x60\"'@#.,|^&<=>+-*/\\%?!~()[]\x7b\x7d".toList

/-- Characters of identifiers: all that are neither blank nor control nor punctuation. -/
def isWordPart (c : Char) : Bool := 0x20 ≤ c.toNat && !isBlank c && !punctuation.contains c

def isHexDigit (c : Char) : Bool :=
  Text.isDigit c || ('a' ≤ c && c ≤ 'f') || ('A' ≤ c && c ≤ 'F')

end Characters

section Words

/-- Length of a character written by its code point, zero if there is none. -/
def escapedLength : Text → Nat
  | '\\' :: 'u' :: '\x7b' :: rest =>
      let digits := (rest.takeWhile isHexDigit).length
      if 0 < digits && (rest.drop digits).head? == some '\x7d' then digits + 4 else 0
  | '\\' :: 'u' :: rest =>
      if 4 ≤ ((rest.take 4).takeWhile isHexDigit).length then 6 else 0
  | _ => 0

def wordLengthFrom (skip : Nat) : Text → Nat
  | [] => 0
  | c :: rest =>
      match skip with
      | n + 1 => wordLengthFrom n rest + 1
      | 0 =>
          if isWordPart c then wordLengthFrom 0 rest + 1
          else match escapedLength (c :: rest) with
            | 0 => 0
            | n + 1 => wordLengthFrom n rest + 1

/-- The word at the start of a text, empty if there is none. -/
def wordAt (text : Text) : Text :=
  match text with
  | [] => []
  | c :: _ => if Text.isDigit c then [] else text.take (wordLengthFrom 0 text)

def keywordLength? (word : String) (text : Text) : Option Nat :=
  if wordAt text == word.toList then some word.length else none

def keyword (word : String) : Parser := leaf word false (keywordLength? word)

def anyKeyword (words : List String) : Parser := choice (words.map keyword)

def wordLength? (rejected : List String) (text : Text) : Option Nat :=
  match wordAt text with
  | [] => none
  | word => if rejected.contains (String.ofList word) then none else some word.length

def wordOf (kind : String) (rejected : List String) : Parser :=
  leaf kind true (wordLength? rejected)

def anyName : Parser := wordOf "identifier" []

def typeIdentifier : Parser := wordOf "type_identifier" []

def propertyIdentifier : Parser := wordOf "property_identifier" []

def privateName : Parser := leaf "private_property_identifier" true fun text =>
  match text with
  | '#' :: rest =>
      match wordAt rest with
      | [] => none
      | word => some (word.length + 1)
  | _ => none

/-- Succeeds without reading if the next word is none of those. -/
def notWord (words : List String) : Parser := ahead fun text =>
  !words.contains (String.ofList (wordAt text))

def expressionKeywords : List String := [
  "function", "class", "new", "typeof", "void", "delete", "await", "yield", "this", "super", "null",
  "true", "false", "import"]

def statementKeywords : List String := [
  "if", "else", "for", "while", "do", "switch", "case", "default", "try", "catch", "finally", "with",
  "break", "continue", "return", "throw", "debugger", "var", "const", "interface", "enum", "abstract"]

def identifier : Parser := choice [
  leaf "undefined" true (keywordLength? "undefined"),
  wordOf "identifier" expressionKeywords]

end Words

section Numbers

/-- Length of a run of digits that single underscores may separate. -/
def digitsLength (isDigitOf : Char → Bool) : Text → Nat
  | [] => 0
  | [c] => if isDigitOf c then 1 else 0
  | c :: d :: rest =>
      if !isDigitOf c then 0
      else if d == '_' then
        match rest with
        | [] => 1
        | e :: more => if isDigitOf e then digitsLength isDigitOf (e :: more) + 2 else 1
      else digitsLength isDigitOf (d :: rest) + 1

def exponentLength : Text → Nat
  | [] => 0
  | c :: rest =>
      if c != 'e' && c != 'E' then 0
      else
        let sign := match rest with
          | '+' :: _ => 1
          | '-' :: _ => 1
          | _ => 0
        match digitsLength Text.isDigit (rest.drop sign) with
        | 0 => 0
        | n => 1 + sign + n

def bigLength : Text → Nat
  | 'n' :: _ => 1
  | _ => 0

def decimalLength (text : Text) : Nat :=
  let whole := digitsLength Text.isDigit text
  let fraction := match text.drop whole with
    | '.' :: rest => digitsLength Text.isDigit rest + 1
    | _ => 0
  if whole == 0 && fraction ≤ 1 then 0
  else
    let exponent := exponentLength (text.drop (whole + fraction))
    let length := whole + fraction + exponent
    if length == whole then whole + bigLength (text.drop whole) else length

/-- Length of a number with a base mark of two characters. -/
def basedLength (isDigitOf : Char → Bool) (text : Text) : Nat :=
  match digitsLength isDigitOf (text.drop 2) with
  | 0 => 0
  | n => 2 + n + bigLength (text.drop (2 + n))

def isOctalDigit (c : Char) : Bool := '0' ≤ c && c ≤ '7'

def isBinaryDigit (c : Char) : Bool := c == '0' || c == '1'

def numberLength? (text : Text) : Option Nat :=
  let length := match text with
    | '0' :: c :: _ =>
        if c == 'x' || c == 'X' then basedLength isHexDigit text
        else if c == 'o' || c == 'O' then basedLength isOctalDigit text
        else if c == 'b' || c == 'B' then basedLength isBinaryDigit text
        else decimalLength text
    | _ => decimalLength text
  if length == 0 then none else some length

def number : Parser := leaf "number" true numberLength?

end Numbers

section Quotes

/-- Length of what a backslash and the characters after it stand for, zero if they stand for
nothing. -/
def escapeLength : Text → Nat
  | '\\' :: 'x' :: rest => if 2 ≤ ((rest.take 2).takeWhile isHexDigit).length then 4 else 0
  | '\\' :: 'u' :: rest => escapedLength ('\\' :: 'u' :: rest)
  | '\\' :: '\r' :: '\n' :: _ => 3
  | '\\' :: _ :: _ => 2
  | _ => 0

/-- Length of a quoted text behind its opening quote, which has to end on its line. -/
def quotedLengthFrom (quote : Char) (skip : Nat) : Text → Option Nat
  | [] => none
  | c :: rest =>
      match skip with
      | n + 1 => (quotedLengthFrom quote n rest).map (· + 1)
      | 0 =>
          if c == quote then some 1
          else if c == '\n' || c == '\r' then none
          else if c == '\\' then
            match escapeLength (c :: rest) with
            | 0 => none
            | n + 1 => (quotedLengthFrom quote n rest).map (· + 1)
          else (quotedLengthFrom quote 0 rest).map (· + 1)

def stringLength? : Text → Option Nat
  | c :: rest =>
      if c == '"' || c == '\'' then (quotedLengthFrom c 0 rest).map (· + 1) else none
  | [] => none

def string : Parser := leaf "string" true stringLength?

def regexBodyLength (inClass : Bool) : Text → Option Nat
  | [] => none
  | '\n' :: _ => none
  | '\\' :: c :: rest => if c == '\n' then none else (regexBodyLength inClass rest).map (· + 2)
  | c :: rest =>
      if c == '/' && !inClass then some 1
      else
        let inside := if c == '[' then true else if c == ']' then false else inClass
        (regexBodyLength inside rest).map (· + 1)

def regexLength? : Text → Option Nat
  | '/' :: rest =>
      match regexBodyLength false rest with
      | none => none
      | some 1 => none
      | some n => some (1 + n + ((rest.drop n).takeWhile Text.isLowerLetter).length)
  | _ => none

def regex : Parser := leaf "regex" true regexLength?

def templateCharsLength : Text → Nat
  | [] => 0
  | '\x60' :: _ => 0
  | '$' :: '\x7b' :: _ => 0
  | '\\' :: _ => 0
  | _ :: rest => templateCharsLength rest + 1

def lengthUnlessZero (length : Nat) : Option Nat := if length == 0 then none else some length

def templateChars : Parser :=
  adjacent "string_fragment" true fun text => lengthUnlessZero (templateCharsLength text)

def escapeSequence : Parser :=
  adjacent "escape_sequence" true fun text => lengthUnlessZero (escapeLength text)

end Quotes

section StatementEnds

/-- Whether a statement may end at the end of a line although the next line starts like this. -/
def startsStatement (text : Text) : Bool :=
  match text with
  | [] => true
  | '+' :: rest => rest.head? == some '+'
  | '-' :: rest => rest.head? == some '-'
  | '!' :: rest => rest.head? != some '='
  | c :: _ =>
      if "\x60,.;*%><=?^|&/:".toList.contains c then false
      else !(["in", "instanceof"].contains (String.ofList (text.takeWhile Text.isLetter)))

/-- The end of a statement without a semicolon: the end of the text or block, or of a line that the
next one does not go on with. -/
def automaticEnd : Parser := fun input =>
  let next := (skipTrivia input).2.rest
  if next.isEmpty || next.head? == some '\x7d' || (newlineAhead input && startsStatement next) then
    some ([], input)
  else none

def semicolon : Parser := choice [mark ";", automaticEnd]

/-- The end of a declaration without body; a block on the next line would be the body. -/
def signatureEnd : Parser := seq [ahead fun text => text.head? != some '\x7b', semicolon]

end StatementEnds

section Lists

def comma : Parser := mark ","

def commaSep (item : Parser) : Parser := sepBy comma item

def commaSep1 (item : Parser) : Parser := sepBy1 comma item

def commaSepGaps (item : Parser) : Parser := sepBy1 comma (opt item)

def inParens (parser : Parser) : Parser := bracketed (seq [mark "(", parser, mark ")"])

def inSquares (parser : Parser) : Parser := bracketed (seq [mark "[", parser, mark "]"])

def inCurlies (parser : Parser) : Parser := bracketed (seq [mark "\x7b", parser, mark "\x7d"])

def inBraces (parser : Parser) : Parser := inBlock (seq [mark "\x7b", parser, mark "\x7d"])

def equals : Parser := markNot "=" ["=", ">"]

end Lists

end PatternInspector.TypeScript.Grammar
