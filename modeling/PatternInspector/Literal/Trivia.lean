import PatternInspector.Text.Basic

/-!
Trivia of script text: quoted text and comments, whose brackets and separators do not count.

A quoted text runs to its closing quote, a backslash hiding the character after it; a line comment
runs up to its newline; a block comment runs through its end mark. Trivia without an end runs to the
end of the text.
-/
namespace PatternInspector.Literal

section Tokens

def isQuoteMark (c : Char) : Bool := c == '\'' || c == '"' || c == '\x60'

/-- Characters after an opening quote up to and including the closing one. -/
def quotedLength (quote : Char) : Text → Nat
  | [] => 0
  | [_] => 1
  | c :: d :: rest =>
      if c == '\\' then quotedLength quote rest + 2
      else if c == quote then 1
      else quotedLength quote (d :: rest) + 1

/-- Characters after the start of a block comment up to and including its end mark. -/
def blockLength : Text → Nat
  | [] => 0
  | [_] => 1
  | c :: d :: rest =>
      if c == '*' && d == '/' then 2 else blockLength (d :: rest) + 1

def lineLength (text : Text) : Nat := (text.takeWhile (· != '\n')).length

def startsLineComment (text : Text) : Bool := ['/', '/'].isPrefixOf text

def startsBlockComment (text : Text) : Bool := ['/', '*'].isPrefixOf text

def startsComment (text : Text) : Bool := startsLineComment text || startsBlockComment text

/-- Length of the trivia that the text starts with, zero if it starts with none. -/
def triviaLength : Text → Nat
  | [] => 0
  | c :: rest =>
      if isQuoteMark c then quotedLength c rest + 1
      else if startsLineComment (c :: rest) then lineLength (c :: rest)
      else if startsBlockComment (c :: rest) then blockLength (rest.drop 1) + 2
      else 0

end Tokens

section Positions

inductive ScanFault where
  /-- The position lies at or behind the end of the text. -/
  | outside (index : Nat)
  /-- The character there opens no group. -/
  | notAnOpener (found : Char)

/-- The position behind the trivia at `index`, or `index` itself where none starts. -/
def skipTrivia (text : Text) (index : Nat) : Except ScanFault Nat :=
  if index < text.length then .ok (index + triviaLength (text.drop index))
  else .error (.outside index)

end Positions

section Leading

/-- The text without leading white space and comments. `skip` counts the characters of a comment
that are still to be passed. -/
def dropCommentsFrom (skip : Nat) : Text → Text
  | [] => []
  | c :: rest =>
      match skip with
      | left + 1 => dropCommentsFrom left rest
      | 0 =>
          if Text.isBlank c then dropCommentsFrom 0 rest
          else if startsComment (c :: rest) then
            dropCommentsFrom (triviaLength (c :: rest) - 1) rest
          else c :: rest

def dropComments (text : Text) : Text := dropCommentsFrom 0 text

end Leading

end PatternInspector.Literal
