import PatternInspector.Text.WordTable

/-!
Texts as lists of characters, and the character classes that every scanner of the library uses.

A position in a text is the number of characters before it, and lines end at the newline
character alone.
-/
namespace PatternInspector

/-- A text, one entry per code point. -/
abbrev Text := List Char

namespace Text

section Classes

def inRanges (ranges : List (Nat × Nat)) (c : Char) : Bool :=
  ranges.any fun range => range.1 ≤ c.toNat && c.toNat ≤ range.2

/-- White space: the ASCII controls that separate, and the spaces of the other scripts. -/
def blankRanges : List (Nat × Nat) := [
  (0x09, 0x0d), (0x1c, 0x20), (0x85, 0x85), (0xa0, 0xa0), (0x1680, 0x1680), (0x2000, 0x200a),
  (0x2028, 0x2029), (0x202f, 0x202f), (0x205f, 0x205f), (0x3000, 0x3000)]

def isBlank (c : Char) : Bool := inRanges blankRanges c

def isUpperLetter (c : Char) : Bool := 'A' ≤ c && c ≤ 'Z'

def isLowerLetter (c : Char) : Bool := 'a' ≤ c && c ≤ 'z'

def isLetter (c : Char) : Bool := isUpperLetter c || isLowerLetter c

def isDigit (c : Char) : Bool := '0' ≤ c && c ≤ '9'

/-- Letters and numbers of every script, and the underscore. -/
def isWord (c : Char) : Bool :=
  if c.toNat < 128 then isLetter c || isDigit c || c == '_'
  else inRanges wordRanges c

/-- Word characters and the dollar sign: what follows the first character of an identifier. -/
def isNamePart (c : Char) : Bool := isWord c || c == '$'

def isNameStart (c : Char) : Bool := isLetter c || c == '_' || c == '$'

def isQuote (c : Char) : Bool := c == '\'' || c == '"'

end Classes

section Trimming

def dropBlanks (text : Text) : Text := text.dropWhile isBlank

def dropBlanksEnd (text : Text) : Text := (text.reverse.dropWhile isBlank).reverse

def strip (text : Text) : Text := dropBlanksEnd (dropBlanks text)

end Trimming

section Positions

def newlines (text : Text) : Nat := text.count '\n'

def lineAt (text : Text) (index : Nat) : Nat := newlines (text.take index) + 1

def lines (text : Text) : List Text := text.splitOn '\n'

def find? (needle : Text) : Text → Option Nat
  | [] => if needle.isEmpty then some 0 else none
  | c :: rest =>
      if needle.isPrefixOf (c :: rest) then some 0 else (find? needle rest).map (· + 1)

def includes (text needle : Text) : Bool := (find? needle text).isSome

def slice (text : Text) (start stop : Nat) : Text := (text.drop start).take (stop - start)

end Positions

section Lines

/-- Characters that end a line of prose, of which the newline is only one. -/
def isLineBreak (c : Char) : Bool :=
  inRanges [(0x0a, 0x0d), (0x1c, 0x1e), (0x85, 0x85), (0x2028, 0x2029)] c

/-- The text up to its first line break of any kind. -/
def firstLine (text : Text) : Text := text.takeWhile fun c => !isLineBreak c

end Lines

end Text

def joinWith (separator : String) (parts : List String) : String := separator.intercalate parts

end PatternInspector
