import PatternInspector.Text.Hex
import PatternInspector.Yaml.Cursor

/-!
The text of scalars: plain ones, quoted ones and blocks.

A reader gets the place where a scalar starts and gives its text and the place after it. The loops
are bounded by the number of characters left.
-/
namespace PatternInspector.Yaml

section Plain

/-- What a plain scalar reads up to its end: its text, the place after it and the blanks behind it,
and whether a line end was passed last. -/
structure PlainScalar where
  text : Text
  stop : Cursor
  passedLine : Bool

def isFlowMark (c : Char) : Bool := c == ',' || c == '[' || c == ']' || c == '\x7b' || c == '\x7d'

def endsKey (inFlow : Bool) (following : Option Char) : Bool :=
  endsToken following || (inFlow && following.any isFlowMark)

def plainRun (inFlow : Bool) : Text → Text
  | [] => []
  | c :: rest =>
      if endsToken (some c) || (c == ':' && endsKey inFlow rest.head?) ||
          (inFlow && (isFlowMark c || c == '?')) then []
      else c :: plainRun inFlow rest

/-- Blanks and empty lines after a line end; none before a separator of documents. -/
def gapLines (cursor : Cursor) (passed : Text) : Nat → Option Text × Cursor
  | 0 => (some passed, cursor)
  | steps + 1 =>
      if cursor.isAt ' ' then gapLines cursor.next passed steps
      else
        match cursor.lineBreak? with
        | none => (some passed, cursor)
        | some (lineEnd, after) =>
            if after.atSeparator then (none, after)
            else gapLines after (passed ++ [lineEnd]) steps

/-- The gap between two runs of a plain scalar: the text it stands for, the place after it, and
whether it has a line end. -/
def plainGap (cursor : Cursor) : Text × Cursor × Bool :=
  let (blanks, after) := cursor.span (· == ' ')
  match after.lineBreak? with
  | none => (blanks, after, false)
  | some (lineEnd, line) =>
      if line.atSeparator then ([], line, true)
      else
        match gapLines line [] line.rest.length with
        | (none, stop) => ([], stop, true)
        | (some emptyLines, stop) => (fold lineEnd emptyLines, stop, true)

def plainFrom (inFlow : Bool) (indent : Nat) (sofar gap : Text) (cursor : Cursor)
    (passedLine : Bool) : Nat → PlainScalar
  | 0 => ⟨sofar, cursor, passedLine⟩
  | steps + 1 =>
      let run := if cursor.isAt '#' then [] else plainRun inFlow cursor.rest
      if run.isEmpty then ⟨sofar, cursor, passedLine⟩
      else
        let text := sofar ++ gap ++ run
        let (gap, after, passedLine) := plainGap (cursor.skip run.length)
        if gap.isEmpty || after.isAt '#' || (!inFlow && after.column < indent) then
          ⟨text, after, passedLine⟩
        else plainFrom inFlow indent text gap after passedLine steps

def plainScalar (inFlow : Bool) (indent : Nat) (cursor : Cursor) : PlainScalar :=
  plainFrom inFlow indent [] [] cursor false cursor.rest.length

end Plain

section Quoted

/-- Empty lines inside quotes; a separator of documents must not stand there. -/
def quotedLines (cursor : Cursor) (passed : Text) : Nat → Except Fault (Text × Cursor)
  | 0 => .ok (passed, cursor)
  | steps + 1 =>
      if cursor.atSeparator then .error .malformed
      else
        let after := cursor.skipWhile isSpace
        match after.lineBreak? with
        | none => .ok (passed, after)
        | some (lineEnd, line) => quotedLines line (passed ++ [lineEnd]) steps

def escapes : List (Char × Char) := [
  ('0', '\x00'), ('a', '\x07'), ('b', '\x08'), ('t', '\t'), ('\t', '\t'), ('n', '\n'), ('v', '\x0b'),
  ('f', '\x0c'), ('r', '\r'), ('e', '\x1b'), (' ', ' '), ('"', '"'), ('\\', '\\'), ('/', '/'),
  ('N', '\x85'), ('_', '\xa0'), ('L', '\u2028'), ('P', '\u2029')]

/-- How many digits follow a letter that announces a character by its number. -/
def escapeWidth : Char → Option Nat
  | 'x' => some 2
  | 'u' => some 4
  | 'U' => some 8
  | _ => none

/-- A character by its number; a number that belongs to half a character stands for the
replacement character. -/
def charOfNumber (n : Nat) : Except Fault Char :=
  if 0x10ffff < n then .error .badNumber
  else if 0xd800 ≤ n && n ≤ 0xdfff then .ok '\ufffd'
  else .ok (Char.ofNat n)

def escapeSequence (cursor : Cursor) : Except Fault (Text × Cursor) :=
  match cursor.peek with
  | none => .error .malformed
  | some c =>
      match escapes.lookup c, escapeWidth c with
      | some meaning, _ => .ok ([meaning], cursor.next)
      | none, some width =>
          let digits := cursor.next.rest.take width
          match Text.hexNumber? digits with
          | some n =>
              if digits.length < width then .error .malformed
              else (charOfNumber n).map fun found => ([found], cursor.next.skip width)
          | none => .error .malformed
      | none, none =>
          match cursor.lineBreak? with
          | some (_, line) => quotedLines line [] (line.rest.length + 1)
          | none => .error .malformed

/-- Blanks inside quotes, which count only if no line ends after them. -/
def quotedGap (cursor : Cursor) : Except Fault (Text × Cursor) :=
  let (blanks, after) := cursor.span isSpace
  match after.lineBreak? with
  | some (lineEnd, line) => do
      let (emptyLines, stop) ← quotedLines line [] (line.rest.length + 1)
      return (fold lineEnd emptyLines, stop)
  | none => if after.rest.isEmpty then .error .malformed else .ok (blanks, after)

def isQuotedText (quote c : Char) : Bool :=
  c != quote && !(quote == '"' && c == '\\') && !endsToken (some c)

def quotedFrom (quote : Char) (cursor : Cursor) (sofar : Text) : Nat → Except Fault (Text × Cursor)
  | 0 => .error .malformed
  | steps + 1 =>
      match cursor.rest with
      | [] => .error .malformed
      | c :: rest =>
          if c == quote then
            if quote == '\'' && rest.head? == some '\'' then
              quotedFrom quote (cursor.skip 2) (sofar ++ ['\'']) steps
            else .ok (sofar, cursor.next)
          else if quote == '"' && c == '\\' then do
            let (found, after) ← escapeSequence cursor.next
            quotedFrom quote after (sofar ++ found) steps
          else if endsToken (some c) then do
            let (found, after) ← quotedGap cursor
            quotedFrom quote after (sofar ++ found) steps
          else
            let (run, after) := cursor.span (isQuotedText quote)
            quotedFrom quote after (sofar ++ run) steps

def quotedScalar (quote : Char) (cursor : Cursor) : Except Fault (Text × Cursor) :=
  quotedFrom quote cursor.next [] (cursor.rest.length + 1)

end Quoted

section Block

/-- What happens to the line ends after the last line of a block. -/
inductive Chomping where
  | clip
  | strip
  | keep
  deriving DecidableEq

structure BlockHeader where
  chomping : Chomping := .clip
  /-- Columns of indentation, if the header gives them. -/
  indent : Option Nat := none

def chompingOf? : Option Char → Option Chomping
  | some '+' => some .keep
  | some '-' => some .strip
  | _ => none

/-- A digit other than zero, which gives the indentation; zero is refused. -/
def indentDigit (cursor : Cursor) : Except Fault (Option Nat × Cursor) :=
  match cursor.peek with
  | some c =>
      if c == '0' then .error .malformed
      else if Text.isDigit c then .ok (some (c.toNat - '0'.toNat), cursor.next)
      else .ok (none, cursor)
  | none => .ok (none, cursor)

def blockHeader (cursor : Cursor) : Except Fault (BlockHeader × Cursor) := do
  let (header, after) ← match chompingOf? cursor.peek with
    | some chomping => do
        let (indent, after) ← indentDigit cursor.next
        pure (BlockHeader.mk chomping indent, after)
    | none => do
        let (indent, after) ← indentDigit cursor
        match indent, chompingOf? after.peek with
        | some _, some chomping => pure (BlockHeader.mk chomping indent, after.next)
        | _, _ => pure (BlockHeader.mk .clip indent, after)
  if endsPart after.peek then return (header, after) else throw .malformed

/-- The rest of a line that may hold a comment only. -/
def ignoredLine (cursor : Cursor) : Except Fault Cursor :=
  let blank := cursor.skipBlanks
  let after := if blank.isAt '#' then blank.skipWhile fun c => !isBreak c else blank
  match after.lineBreak? with
  | some (_, line) => .ok line
  | none => if after.rest.isEmpty then .ok after else .error .malformed

/-- The empty lines before the first line of a block, and its indentation. -/
def blockIndentation (cursor : Cursor) (passed : Text) (widest : Nat) : Nat → Text × Nat × Cursor
  | 0 => (passed, widest, cursor)
  | steps + 1 =>
      if cursor.isAt ' ' then
        blockIndentation cursor.next passed (max widest cursor.next.column) steps
      else
        match cursor.lineBreak? with
        | some (lineEnd, line) => blockIndentation line (passed ++ [lineEnd]) widest steps
        | none => (passed, widest, cursor)

def skipIndent (indent : Nat) (cursor : Cursor) : Nat → Cursor
  | 0 => cursor
  | steps + 1 =>
      if cursor.column < indent && cursor.isAt ' ' then skipIndent indent cursor.next steps
      else cursor

def blockLines (indent : Nat) (cursor : Cursor) (passed : Text) : Nat → Text × Cursor
  | 0 => (passed, cursor)
  | steps + 1 =>
      match cursor.lineBreak? with
      | some (lineEnd, line) =>
          blockLines indent (skipIndent indent line indent) (passed ++ [lineEnd]) steps
      | none => (passed, cursor)

def blockBreaks (indent : Nat) (cursor : Cursor) : Text × Cursor :=
  blockLines indent (skipIndent indent cursor indent) [] cursor.rest.length

/-- A block up to its last line: its text, the line end of the last line, the empty lines after it
and the place where it stops. -/
structure BlockBody where
  text : Text
  lastEnd : Text
  emptyLines : Text
  stop : Cursor

def isInside (indent : Nat) (cursor : Cursor) : Bool :=
  cursor.column == indent && !cursor.rest.isEmpty

def blockFrom (folded : Bool) (indent : Nat) (body : BlockBody) : Nat → BlockBody
  | 0 => body
  | steps + 1 =>
      if !isInside indent body.stop then body
      else
        let (line, lineStop) := body.stop.span fun c => !isBreak c
        let text := body.text ++ body.emptyLines ++ line
        let (lastEnd, after) :=
          match lineStop.lineBreak? with
          | some (lineEnd, next) => ([lineEnd], next)
          | none => ([], lineStop)
        let (emptyLines, stop) := blockBreaks indent after
        if !isInside indent stop then ⟨text, lastEnd, emptyLines, stop⟩
        else
          let startsPlain := !line.head?.any isSpace
          let joined :=
            if folded && lastEnd == ['\n'] && startsPlain && !stop.peek.any isSpace then
              if emptyLines.isEmpty then [' '] else []
            else lastEnd
          blockFrom folded indent ⟨text ++ joined, lastEnd, emptyLines, stop⟩ steps

def finishBlock (chomping : Chomping) (body : BlockBody) : Text :=
  match chomping with
  | .strip => body.text
  | .clip => body.text ++ body.lastEnd
  | .keep => body.text ++ body.lastEnd ++ body.emptyLines

/-- The block whose mark stands here, below a collection at the column before `least`. -/
def blockScalar (folded : Bool) (least : Nat) (cursor : Cursor) : Except Fault (Text × Cursor) := do
  let (header, afterHeader) ← blockHeader cursor.next
  let first ← ignoredLine afterHeader
  let (indent, emptyLines, start) :=
    match header.indent with
    | some columns =>
        let indent := least + columns - 1
        let (emptyLines, start) := blockBreaks indent first
        (indent, emptyLines, start)
    | none =>
        let (emptyLines, widest, start) := blockIndentation first [] 0 first.rest.length
        (max least widest, emptyLines, start)
  let body := blockFrom folded indent ⟨[], [], emptyLines, start⟩ start.rest.length
  return (finishBlock header.chomping body, body.stop)

end Block

end PatternInspector.Yaml
