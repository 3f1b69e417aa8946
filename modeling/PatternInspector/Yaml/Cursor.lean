import PatternInspector.Text.Basic

/-!
A place in a YAML text, with its line and column, and the classes of characters that separate.
-/
namespace PatternInspector.Yaml

section Faults

inductive Fault where
  /-- The text is not a document. -/
  | malformed
  /-- A number or date that is written like one and is none. -/
  | badNumber
  /-- A number without any character. -/
  | emptyNumber
  /-- A word that is marked as a truth value and is none. -/
  | badTruth
  /-- A text that is marked as a date and is none. -/
  | badDate
  deriving DecidableEq

end Faults

section Characters

/-- Line ends: besides the usual ones those of the other scripts. -/
def isBreak (c : Char) : Bool :=
  c == '\n' || c == '\r' || c == '\x85' || c == '\u2028' || c == '\u2029'

def isSpace (c : Char) : Bool := c == ' ' || c == '\t'

/-- What ends a token: a separator or the end of the text. -/
def endsToken : Option Char → Bool
  | none => true
  | some c => isSpace c || isBreak c

/-- A blank, a line end or the end of the text, but no tab. -/
def endsPart : Option Char → Bool
  | none => true
  | some c => c == ' ' || isBreak c

def endsLine : Option Char → Bool
  | none => true
  | some c => isBreak c

def isAllowed (c : Char) : Bool :=
  Text.inRanges [(0x09, 0x0a), (0x0d, 0x0d), (0x20, 0x7e), (0x85, 0x85), (0xa0, 0xd7ff),
    (0xe000, 0xfffd), (0x10000, 0x10ffff)] c

/-- Letters, digits, hyphen and underscore: what names of anchors and tags consist of. -/
def isNameChar (c : Char) : Bool := Text.isLetter c || Text.isDigit c || c == '-' || c == '_'

end Characters

section Cursors

structure Cursor where
  rest : Text
  index : Nat := 0
  line : Nat := 0
  column : Nat := 0

namespace Cursor

def peek (cursor : Cursor) : Option Char := cursor.rest.head?

def peekAt (cursor : Cursor) (n : Nat) : Option Char := cursor.rest[n]?

def isAt (cursor : Cursor) (c : Char) : Bool := cursor.peek == some c

/-- The place one character on. The mark of byte order has no width. -/
def next (cursor : Cursor) : Cursor :=
  match cursor.rest with
  | [] => cursor
  | c :: rest =>
      if isBreak c && !(c == '\r' && rest.head? == some '\n') then
        ⟨rest, cursor.index + 1, cursor.line + 1, 0⟩
      else if c == '\ufeff' then ⟨rest, cursor.index + 1, cursor.line, cursor.column⟩
      else ⟨rest, cursor.index + 1, cursor.line, cursor.column + 1⟩

def skip (cursor : Cursor) : Nat → Cursor
  | 0 => cursor
  | n + 1 => cursor.next.skip n

/-- The characters of a class that follow, and the place after them. -/
def span (accepts : Char → Bool) (cursor : Cursor) : Text × Cursor :=
  let found := cursor.rest.takeWhile accepts
  (found, cursor.skip found.length)

def skipWhile (accepts : Char → Bool) (cursor : Cursor) : Cursor := (cursor.span accepts).2

def skipBlanks (cursor : Cursor) : Cursor := cursor.skipWhile (· == ' ')

/-- The line end that stands here, as a text keeps it, and the place after it. -/
def lineBreak? (cursor : Cursor) : Option (Char × Cursor) :=
  match cursor.rest with
  | '\r' :: '\n' :: _ => some ('\n', cursor.skip 2)
  | c :: _ =>
      if !isBreak c then none
      else if c == '\u2028' || c == '\u2029' then some (c, cursor.next)
      else some ('\n', cursor.next)
  | [] => none

/-- Three hyphens or dots that stand alone separate documents. -/
def atMarker (mark : Char) (cursor : Cursor) : Bool :=
  cursor.rest.take 3 == [mark, mark, mark] && endsToken (cursor.peekAt 3)

def atSeparator (cursor : Cursor) : Bool := cursor.atMarker '-' || cursor.atMarker '.'

end Cursor

end Cursors

section Folding

/-- A line end inside a scalar together with the empty lines after it: one newline alone counts as a
blank. -/
def fold (lineEnd : Char) (emptyLines : Text) : Text :=
  if lineEnd != '\n' then lineEnd :: emptyLines
  else if emptyLines.isEmpty then [' ']
  else emptyLines

end Folding

end PatternInspector.Yaml
