import PatternInspector.Text.Utf8
import PatternInspector.Yaml.Scalar

/-!
The tokens of a YAML text. Indentation becomes marks for the start and end of block collections, and
a text that turns out to be a key gets its mark where it began.

A text can be a key while no line end follows it and not more than a limited number of characters;
a text at the indentation of its mapping has to be one.
-/
namespace PatternInspector.Yaml

section Tokens

inductive Directive where
  | version (major : Nat)
  | handle (name : String) (expansion : String)
  | other

inductive Token where
  | directive (content : Directive)
  | documentStart
  | documentEnd
  | blockSequenceStart
  | blockMappingStart
  | blockEnd
  | flowSequenceStart
  | flowSequenceEnd
  | flowMappingStart
  | flowMappingEnd
  | flowEntry
  | blockEntry
  | key
  | value
  | alias (name : String)
  | anchor (name : String)
  /-- A tag: its handle, if it has one, and the rest of its name. -/
  | tag (handle : Option String) (suffix : String)
  | scalar (text : Text) (isPlain : Bool)

end Tokens

section Names

/-- The name of an anchor or alias, whose mark stands here. -/
def anchorName (cursor : Cursor) : Except Fault (String × Cursor) :=
  let (name, after) := cursor.next.span isNameChar
  let ends := after.peek.all fun c =>
    endsToken (some c) || "?:,]\x7d%@\x60".toList.contains c
  if name.isEmpty || !ends then .error .malformed else .ok (String.ofList name, after)

def uriMarks : Text := "-;/?:@&=+$,_.!~*'()[]".toList

def isUriChar (c : Char) : Bool := Text.isLetter c || Text.isDigit c || uriMarks.contains c

/-- A byte that is written as a percent sign and two digits. -/
def uriByte? : Text → Option UInt8
  | '%' :: high :: low :: _ => (Text.hexNumber? [high, low]).map UInt8.ofNat
  | _ => none

def uriBytes : Text → Nat → List UInt8
  | _, 0 => []
  | text, steps + 1 =>
      match uriByte? text with
      | some byte => byte :: uriBytes (text.drop 3) steps
      | none => []

def uriFrom (cursor : Cursor) (sofar : Text) : Nat → Except Fault (Text × Cursor)
  | 0 => .ok (sofar, cursor)
  | steps + 1 =>
      if cursor.isAt '%' then
        let bytes := uriBytes cursor.rest cursor.rest.length
        let after := cursor.skip (3 * bytes.length)
        match bytes, after.isAt '%', Utf8.decode bytes with
        | _ :: _, false, .ok text => uriFrom after (sofar ++ text) steps
        | _, _, _ => .error .malformed
      else
        let (run, after) := cursor.span isUriChar
        if run.isEmpty then .ok (sofar, cursor) else uriFrom after (sofar ++ run) steps

def uri (cursor : Cursor) : Except Fault (String × Cursor) := do
  let (text, after) ← uriFrom cursor [] (cursor.rest.length + 1)
  if text.isEmpty then throw .malformed else return (String.ofList text, after)

/-- A handle: exclamation marks around a name, or a single mark before a blank. -/
def tagHandle (cursor : Cursor) : Except Fault (String × Cursor) :=
  if !cursor.isAt '!' then .error .malformed
  else if cursor.peekAt 1 == some ' ' then .ok ("!", cursor.next)
  else
    let (name, after) := cursor.next.span isNameChar
    if after.isAt '!' then .ok (String.ofList ('!' :: name ++ ['!']), after.next)
    else .error .malformed

def tagName (cursor : Cursor) : Except Fault (Option String × String × Cursor) :=
  match cursor.peekAt 1 with
  | some '<' => do
      let (suffix, after) ← uri (cursor.skip 2)
      if after.isAt '>' then return (none, suffix, after.next) else throw .malformed
  | following =>
      if endsToken following then .ok (none, "!", cursor.next)
      else
        let word := cursor.next.rest.takeWhile fun c => !endsPart (some c)
        if word.contains '!' then do
          let (handle, after) ← tagHandle cursor
          let (suffix, stop) ← uri after
          return (some handle, suffix, stop)
        else do
          let (suffix, stop) ← uri cursor.next
          return (some "!", suffix, stop)

def tagToken (cursor : Cursor) : Except Fault (Token × Cursor) := do
  let (handle, suffix, after) ← tagName cursor
  if endsPart after.peek then return (.tag handle suffix, after) else throw .malformed

end Names

section Directives

def versionNumber (cursor : Cursor) : Except Fault (Nat × Cursor) :=
  let (digits, after) := cursor.span Text.isDigit
  if digits.isEmpty then .error .malformed
  else .ok (digits.foldl (fun n c => 10 * n + (c.toNat - '0'.toNat)) 0, after)

def versionDirective (cursor : Cursor) : Except Fault (Directive × Cursor) := do
  let (major, after) ← versionNumber cursor.skipBlanks
  if !after.isAt '.' then throw .malformed
  let (_, stop) ← versionNumber after.next
  if endsPart stop.peek then return (.version major, stop) else throw .malformed

def handleDirective (cursor : Cursor) : Except Fault (Directive × Cursor) := do
  let (handle, after) ← tagHandle cursor.skipBlanks
  if !after.isAt ' ' then throw .malformed
  let (expansion, stop) ← uri after.skipBlanks
  if endsPart stop.peek then return (.handle handle expansion, stop) else throw .malformed

def directiveToken (cursor : Cursor) : Except Fault (Token × Cursor) := do
  let (name, after) := cursor.next.span isNameChar
  if name.isEmpty || !endsPart after.peek then throw .malformed
  let (directive, stop) ← match String.ofList name with
    | "YAML" => versionDirective after
    | "TAG" => handleDirective after
    | _ => pure (.other, after.skipWhile fun c => !isBreak c)
  return (.directive directive, ← ignoredLine stop)

end Directives

section Scanning

structure PossibleKey where
  /-- How many tokens stand before it. -/
  tokensBefore : Nat
  required : Bool
  index : Nat
  line : Nat
  column : Nat

def maxKeyLength : Nat := 1024

structure Scan where
  cursor : Cursor
  /-- The tokens so far, the last one first. -/
  tokens : List Token := []
  /-- How many flow collections are open. -/
  flow : Nat := 0
  /-- Column of the innermost block collection, and of those around it. -/
  indent : Int := -1
  outer : List Int := []
  allowKey : Bool := true
  /-- The possible key of each open flow collection, and of the block around them. -/
  keys : List (Nat × PossibleKey) := []

namespace Scan

def emit (scan : Scan) (token : Token) : Scan := { scan with tokens := token :: scan.tokens }

def advance (scan : Scan) (n : Nat) : Scan := { scan with cursor := scan.cursor.skip n }

/-- Drops the keys that can no longer be one; a required one must not be dropped. -/
def dropKeys (scan : Scan) (gone : Nat × PossibleKey → Bool) : Except Fault Scan :=
  if scan.keys.any fun entry => gone entry && entry.2.required then .error .malformed
  else .ok { scan with keys := scan.keys.filter fun entry => !gone entry }

def dropStaleKeys (scan : Scan) : Except Fault Scan :=
  scan.dropKeys fun entry =>
    entry.2.line != scan.cursor.line || maxKeyLength < scan.cursor.index - entry.2.index

def dropKey (scan : Scan) : Except Fault Scan := scan.dropKeys fun entry => entry.1 == scan.flow

def noteKey (scan : Scan) : Except Fault Scan := do
  if !scan.allowKey then return scan
  let cleared ← scan.dropKey
  let key : PossibleKey := {
    tokensBefore := scan.tokens.length
    required := scan.flow == 0 && scan.indent == scan.cursor.column
    index := scan.cursor.index
    line := scan.cursor.line
    column := scan.cursor.column }
  return { cleared with keys := (scan.flow, key) :: cleared.keys }

def unwind (scan : Scan) (column : Int) : Scan :=
  if scan.flow != 0 then scan
  else
    let rec close (scan : Scan) : List Int → Scan
      | [] => scan
      | indent :: outer =>
          if scan.indent ≤ column then scan
          else close { scan with indent, outer, tokens := .blockEnd :: scan.tokens } outer
    close scan scan.outer

/-- Starts a block collection at a column to the right of the innermost one. -/
def indentTo (scan : Scan) (column : Int) (start : Token) : Scan :=
  if scan.indent < column then
    { scan with indent := column, outer := scan.indent :: scan.outer, tokens := start :: scan.tokens }
  else scan

/-- The place of the next token, after blanks, comments and line ends. -/
def skipTrivia (scan : Scan) : Nat → Scan
  | 0 => scan
  | steps + 1 =>
      let blank := scan.cursor.skipBlanks
      let after := if blank.isAt '#' then blank.skipWhile fun c => !isBreak c else blank
      match after.lineBreak? with
      | some (_, line) =>
          skipTrivia { scan with cursor := line, allowKey := scan.allowKey || scan.flow == 0 } steps
      | none => { scan with cursor := after }

/-- A token that separates documents or announces one, which ends all blocks. -/
def topLevel (scan : Scan) : Except Fault Scan := do
  return { ← (scan.unwind (-1)).dropKey with allowKey := false }

def openFlow (scan : Scan) (token : Token) : Except Fault Scan := do
  let noted ← scan.noteKey
  return ({ noted with flow := scan.flow + 1, allowKey := true }.emit token).advance 1

def closeFlow (scan : Scan) (token : Token) : Except Fault Scan := do
  if scan.flow == 0 then throw .malformed
  let cleared ← scan.dropKey
  return ({ cleared with flow := scan.flow - 1, allowKey := false }.emit token).advance 1

def flowEntry (scan : Scan) : Except Fault Scan := do
  return ({ ← scan.dropKey with allowKey := true }.emit .flowEntry).advance 1

/-- A hyphen or question mark that starts an entry of a block. -/
def entryMark (scan : Scan) (start token : Token) (allowKey : Bool) : Except Fault Scan := do
  if scan.flow == 0 && !scan.allowKey then throw .malformed
  let started := if scan.flow == 0 then scan.indentTo scan.cursor.column start else scan
  return ({ ← started.dropKey with allowKey }.emit token).advance 1

/-- Puts the mark of a key, and of the mapping it starts, where the key began. -/
def insertKey (scan : Scan) (key : PossibleKey) : Scan :=
  let later := scan.tokens.take (scan.tokens.length - key.tokensBefore)
  let earlier := scan.tokens.drop (scan.tokens.length - key.tokensBefore)
  let started :=
    if scan.flow == 0 then { scan with tokens := earlier }.indentTo key.column .blockMappingStart
    else { scan with tokens := earlier }
  { started with tokens := later ++ .key :: started.tokens, allowKey := false }

def valueMark (scan : Scan) : Except Fault Scan := do
  match scan.keys.lookup scan.flow with
  | some key =>
      let cleared := { scan with keys := scan.keys.filter fun entry => entry.1 != scan.flow }
      return ((cleared.insertKey key).emit .value).advance 1
  | none => entryMark scan .blockMappingStart .value (scan.flow == 0)

/-- A token that may be a key, read from its first character. -/
def nodeToken (scan : Scan) (read : Cursor → Except Fault (Token × Cursor)) : Except Fault Scan := do
  let noted ← scan.noteKey
  let (token, cursor) ← read scan.cursor
  return { noted with cursor, allowKey := false }.emit token

def plainToken (scan : Scan) : Except Fault Scan := do
  let noted ← scan.noteKey
  let found := plainScalar (scan.flow != 0) (scan.indent + 1).toNat scan.cursor
  return { noted with cursor := found.stop, allowKey := found.passedLine }.emit
    (.scalar found.text true)

def blockToken (scan : Scan) (folded : Bool) : Except Fault Scan := do
  let cleared ← scan.dropKey
  let (text, cursor) ← blockScalar folded (max (scan.indent + 1) 1).toNat scan.cursor
  return { cleared with cursor, allowKey := true }.emit (.scalar text false)

def startsPlain (scan : Scan) (c : Char) : Bool :=
  if endsToken (some c) || "-?:,[]\x7b\x7d#&*!|>'\"%@\x60".toList.contains c then
    !endsToken (scan.cursor.peekAt 1) && (c == '-' || (scan.flow == 0 && (c == '?' || c == ':')))
  else true

def token (scan : Scan) (c : Char) : Except Fault Scan :=
  let atStart := scan.cursor.column == 0
  let alone := endsToken (scan.cursor.peekAt 1)
  let inFlow := scan.flow != 0
  if c == '%' && atStart then do
    let top ← scan.topLevel
    let (token, cursor) ← directiveToken scan.cursor
    return { top with cursor }.emit token
  else if atStart && scan.cursor.atMarker '-' then do
    return ((← scan.topLevel).emit .documentStart).advance 3
  else if atStart && scan.cursor.atMarker '.' then do
    return ((← scan.topLevel).emit .documentEnd).advance 3
  else if c == '[' then scan.openFlow .flowSequenceStart
  else if c == '\x7b' then scan.openFlow .flowMappingStart
  else if c == ']' then scan.closeFlow .flowSequenceEnd
  else if c == '\x7d' then scan.closeFlow .flowMappingEnd
  else if c == ',' then scan.flowEntry
  else if c == '-' && alone then scan.entryMark .blockSequenceStart .blockEntry true
  else if c == '?' && (inFlow || alone) then scan.entryMark .blockMappingStart .key (!inFlow)
  else if c == ':' && (inFlow || alone) then scan.valueMark
  else if c == '*' then scan.nodeToken fun cursor => do
    let (name, after) ← anchorName cursor
    return (.alias name, after)
  else if c == '&' then scan.nodeToken fun cursor => do
    let (name, after) ← anchorName cursor
    return (.anchor name, after)
  else if c == '!' then scan.nodeToken tagToken
  else if (c == '|' || c == '>') && !inFlow then scan.blockToken (c == '>')
  else if Text.isQuote c then scan.nodeToken fun cursor => do
    let (text, after) ← quotedScalar c cursor
    return (.scalar text false, after)
  else if scan.startsPlain c then scan.plainToken
  else .error .malformed

def run (scan : Scan) : Nat → Except Fault (List Token)
  | 0 => .error .malformed
  | steps + 1 => do
      let here ← (scan.skipTrivia (scan.cursor.rest.length + 1)).dropStaleKeys
      let unwound := here.unwind here.cursor.column
      match unwound.cursor.peek with
      | none => return (← unwound.topLevel).tokens.reverse
      | some c => (← unwound.token c).run steps

end Scan

/-- The tokens of a text. A mark of byte order before the text is passed over. -/
def tokens (text : Text) : Except Fault (List Token) :=
  if !text.all isAllowed then .error .malformed
  else
    let start : Cursor := { rest := text }
    let cursor := if start.isAt '\ufeff' then start.next else start
    { cursor : Scan }.run (text.length + 1)

end Scanning

end PatternInspector.Yaml
