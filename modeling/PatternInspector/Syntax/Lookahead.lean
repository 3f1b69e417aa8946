import PatternInspector.Syntax.Parser

/-!
Looking beyond a bracketed group: what follows its closing bracket often decides how the group has
to be read. Quoted texts and comments inside the group are passed over.
-/
namespace PatternInspector.Syntax

section Groups

def isOpening (c : Char) : Bool := c == '(' || c == '[' || c == '\x7b'

def isClosing (c : Char) : Bool := c == ')' || c == ']' || c == '\x7d'

/-- The text behind a quoted text whose opening quote was passed. -/
def afterQuoted (quote : Char) : Text → Text
  | [] => []
  | [_] => []
  | c :: d :: rest =>
      if c == '\\' then afterQuoted quote rest
      else if c == quote then d :: rest
      else afterQuoted quote (d :: rest)

def isQuoteMark (c : Char) : Bool := c == '\'' || c == '"' || c == '\x60'

def afterClosingFrom (style : Style) : Nat → Nat → Text → Option Text
  | 0, _, _ => none
  | _, _, [] => none
  | limit + 1, depth, c :: rest =>
      if isQuoteMark c then afterClosingFrom style limit depth (afterQuoted c rest)
      else if isOpening c then afterClosingFrom style limit (depth + 1) rest
      else if isClosing c then
        if depth ≤ 1 then some rest else afterClosingFrom style limit (depth - 1) rest
      else match commentLength? style (c :: rest) with
        | some (length, _) => afterClosingFrom style limit depth ((c :: rest).drop length)
        | none => afterClosingFrom style limit depth rest

/-- What follows the group at the start of a text, from its next token on. -/
def afterGroup (style : Style) (text : Text) : Option Text :=
  (afterClosingFrom style (text.length + 1) 0 text).map fun rest =>
    (skipTrivia { rest, style }).2.rest

end Groups

/-- Succeeds without reading if a group is next and what follows it passes the test. -/
def Parser.groupBefore (test : Text → Bool) : Parser := fun input =>
  match (skipTrivia input).2.rest with
  | [] => none
  | c :: rest =>
      if isOpening c && ((afterGroup input.style (c :: rest)).any test) then some ([], input)
      else none

def startsWithAny (marks : List String) (text : Text) : Bool :=
  marks.any fun mark => mark.toList.isPrefixOf text

end PatternInspector.Syntax
