import PatternInspector.Component.Block
import PatternInspector.Text.Case
import PatternInspector.Text.Reader

/-!
Splitting a component into its top-level blocks.

Text and comments between blocks are passed over. A block ends at the first end tag of its name in
any letter case, but a template ends where its nested templates balance. The first fault ends the
split and carries the line of the tag or comment it is about.
-/
namespace PatternInspector.Component

open PatternInspector.Text (Reader)

section Faults

/-- Blocks of which a component has at most one. -/
inductive UniqueBlock where
  | template
  | script
  | scriptSetup
  deriving DecidableEq

def UniqueBlock.label : UniqueBlock → String
  | .template => "template"
  | .script => "script"
  | .scriptSetup => "script setup"

inductive SplitCause where
  | unterminatedComment
  | missingEndTag (tag : String)
  | duplicate (block : UniqueBlock)
  deriving DecidableEq

structure SplitFault where
  cause : SplitCause
  line : Nat
  deriving DecidableEq

def SplitFault.message (fault : SplitFault) : String :=
  match fault.cause with
  | .unterminatedComment => "Unterminated comment"
  | .missingEndTag tag => "Element is missing end tag: <" ++ tag ++ ">"
  | .duplicate block =>
      "Single file component can contain only one <" ++ block.label ++ "> element"

end Faults

section Tags

structure OpenTag where
  tag : Text
  attributes : Text
  selfClosing : Bool

/-- A tag name, then anything but `>` after white space, then the end of the tag. -/
def openTag : Reader OpenTag := do
  Reader.single '<'
  let tag ← Reader.matched do
    let _ ← Reader.char Text.isLetter
    Reader.many fun c => Text.isWord c || c == '-'
  let attributes ← Reader.matched (Reader.optional do
    Reader.blanks1
    Reader.few (· != '>'))
  Reader.blanks
  let slash ← Reader.optional (Reader.single '/')
  Reader.single '>'
  return ⟨Text.lower tag, attributes, slash.isSome⟩

def unquotedValue (c : Char) : Bool := !Text.isBlank c && !Text.isQuote c && c != '>'

def attributeValue : Reader Text := do
  Reader.blanks
  Reader.single '='
  Reader.blanks
  Reader.oneOf [
    (do
      Reader.single '"'
      let value ← Reader.matched (Reader.many (· != '"'))
      Reader.single '"'
      return value),
    (do
      Reader.single '\''
      let value ← Reader.matched (Reader.many (· != '\''))
      Reader.single '\''
      return value),
    Reader.matched (Reader.many1 unquotedValue)]

def blockAttribute : Reader Attribute := do
  let name ← Reader.matched
    (Reader.many1 fun c => !Text.isBlank c && c != '=' && c != '/' && c != '>')
  let value ← Reader.optional attributeValue
  return ⟨String.ofList name, value.map String.ofList⟩

/-- Adds an attribute; a later value takes the place of an earlier one. -/
def setAttribute (attributes : List Attribute) (added : Attribute) : List Attribute :=
  if attributes.any (·.name == added.name) then
    attributes.map fun existing => if existing.name == added.name then added else existing
  else attributes ++ [added]

def parseAttributes (raw : Text) : List Attribute :=
  (Reader.findAll blockAttribute raw).foldl (fun attributes found => setAttribute attributes found.value) []

def endTag (tag : Text) : Reader Unit := do
  Reader.word "</"
  sameLetters tag
  Reader.blanks
  Reader.single '>'
where
  sameLetters : Text → Reader Unit
    | [] => return ()
    | c :: rest => do
        let _ ← Reader.char (Text.sameLetter c)
        sameLetters rest

end Tags

section Templates

/-- How a template tag changes the nesting. -/
inductive TemplateTag where
  | opening
  | selfClosed
  | closing
  deriving DecidableEq

def templateTag : Reader TemplateTag :=
  Reader.orElse
    (do
      Reader.word "<template"
      Reader.provided fun cursor =>
        cursor.rest.head?.any fun c => Text.isBlank c || c == '>' || c == '/'
      Reader.few (· != '>')
      let slash ← Reader.optional (Reader.single '/')
      Reader.single '>'
      return if slash.isSome then .selfClosed else .opening)
    (do
      Reader.word "</template"
      Reader.blanks
      Reader.single '>'
      return .closing)

/-- Where the end tag starts and stops that closes the last of `depth` open templates. -/
def balanced (depth : Nat) : List (Reader.Found TemplateTag) → Option (Nat × Nat)
  | [] => none
  | found :: rest =>
      match found.value with
      | .opening => balanced (depth + 1) rest
      | .selfClosed => balanced depth rest
      | .closing => if depth ≤ 1 then some (found.start, found.stop) else balanced (depth - 1) rest

/-- Length of the content that follows an open tag, and length up to the end of its end tag. -/
def contentEnd? (tag : Text) (rest : Text) : Option (Nat × Nat) :=
  if tag == "template".toList then balanced 1 (Reader.findAll templateTag rest)
  else (Reader.search (endTag tag) rest).map fun found => (found.start, found.stop)

end Templates

section Assignment

def assign (descriptor : Descriptor) (block : Block) : Except UniqueBlock Descriptor :=
  if block.kind == "template" then
    if descriptor.template.isSome then .error .template
    else .ok { descriptor with template := some block }
  else if block.kind == "script" && block.isSetup then
    if descriptor.scriptSetup.isSome then .error .scriptSetup
    else .ok { descriptor with scriptSetup := some block }
  else if block.kind == "script" then
    if descriptor.script.isSome then .error .script
    else .ok { descriptor with script := some block }
  else if block.kind == "style" then .ok { descriptor with styles := descriptor.styles ++ [block] }
  else .ok { descriptor with customBlocks := descriptor.customBlocks ++ [block] }

end Assignment

section Pieces

inductive Piece where
  /-- Neither a comment nor a tag. -/
  | plain
  | comment (length : Nat)
  /-- A block of the given length whose content starts `inset` characters after the `<`. -/
  | block (tag : Text) (attributes : List Attribute) (inset : Nat) (content : Text) (length : Nat)
  deriving DecidableEq

def commentStart : Text := "<!--".toList

def commentEnd : Text := "-->".toList

/-- Reads the piece that a text starting with `<` starts with. -/
def pieceOf (text : Text) : Except SplitCause Piece :=
  if commentStart.isPrefixOf text then
    match Text.find? commentEnd (text.drop commentStart.length) with
    | none => .error .unterminatedComment
    | some inside => .ok (.comment (commentStart.length + inside + commentEnd.length))
  else
    match openTag.first? (Text.Cursor.start text) with
    | none => .ok .plain
    | some (found, after) =>
        let attributes := parseAttributes found.attributes
        if found.selfClosing then
          .ok (.block found.tag attributes after.position [] after.position)
        else
          match contentEnd? found.tag after.rest with
          | none => .error (.missingEndTag (String.ofList found.tag))
          | some (inside, stop) =>
              .ok (.block found.tag attributes after.position (after.rest.take inside)
                (after.position + stop))

/-- Splits the text from `position` on, `skip` counting the characters of the last piece that are
still to be passed. -/
def splitFrom (code : Text) (descriptor : Descriptor) (position skip : Nat) :
    Text → Except SplitFault Descriptor
  | [] => .ok descriptor
  | c :: rest =>
      match skip with
      | left + 1 => splitFrom code descriptor (position + 1) left rest
      | 0 =>
          if c == '<' then
            match pieceOf (c :: rest) with
            | .error cause => .error ⟨cause, Text.lineAt code position⟩
            | .ok .plain => splitFrom code descriptor (position + 1) 0 rest
            | .ok (.comment length) => splitFrom code descriptor (position + 1) (length - 1) rest
            | .ok (.block tag attributes inset content length) =>
                let block : Block := ⟨String.ofList tag, content, attributes,
                  Text.newlines (code.take (position + inset))⟩
                match assign descriptor block with
                | .error which => .error ⟨.duplicate which, Text.lineAt code position⟩
                | .ok extended => splitFrom code extended (position + 1) (length - 1) rest
          else splitFrom code descriptor (position + 1) 0 rest

def split (code : Text) (filename : String) : Except SplitFault Descriptor :=
  splitFrom code { filename } 0 0 code

end Pieces

end PatternInspector.Component
