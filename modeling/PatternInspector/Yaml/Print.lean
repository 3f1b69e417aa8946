import PatternInspector.Value.Shortest
import PatternInspector.Yaml.Style

/-!
Values as YAML text in blocks, two columns per level. Lines are broken at a blank once they are
longer than the best width; a collection that is mentioned twice is written once and named.
-/
namespace PatternInspector.Yaml

section Output

/-- The text so far, the last character first, and what the last character was. -/
structure Output where
  written : Text := []
  column : Nat := 0
  /-- Whether the text ends with white space. -/
  isBlank : Bool := true
  /-- Whether the line holds nothing but indentation and marks of entries. -/
  isIndented : Bool := true
  /-- Labels of the collections that were written. -/
  seen : List Nat := []

abbrev PrintM := StateM Output

def bestWidth : Nat := 80

def write (text : Text) : PrintM Unit := modify fun output =>
  { output with written := text.reverse ++ output.written, column := output.column + text.length }

def writeBreak (c : Char) : PrintM Unit := modify fun output =>
  { output with written := c :: output.written, column := 0, isBlank := true, isIndented := true }

/-- Goes to a column, on a new line unless nothing but indentation was written. -/
def writeIndent (indent : Nat) : PrintM Unit := do
  let output ← get
  if !output.isIndented || indent < output.column || (output.column == indent && !output.isBlank) then
    writeBreak '\n'
  let column := (← get).column
  if column < indent then
    write (List.replicate (indent - column) ' ')
    modify fun output => { output with isBlank := true }

def writeMark (mark : String) (needsBlank : Bool) : PrintM Unit := do
  if needsBlank && !(← get).isBlank then write [' ']
  write mark.toList
  modify fun output => { output with isBlank := false, isIndented := false }

/-- The mark of an entry, after which a collection may start on the same line. -/
def writeEntryMark (mark : String) : PrintM Unit := do
  let wasIndented := (← get).isIndented
  writeMark mark true
  modify fun output => { output with isIndented := wasIndented }

def endIndentation : PrintM Unit := modify fun output =>
  { output with isBlank := false, isIndented := false }

end Output

section Scalars

inductive RunKind where
  | blanks
  | breaks
  | other
  deriving DecidableEq

def RunKind.of (c : Char) : RunKind :=
  if c == ' ' then .blanks else if isWrittenBreak c then .breaks else .other

def runs : Text → List (RunKind × Text)
  | [] => []
  | c :: rest =>
      match runs rest with
      | (kind, run) :: others =>
          if kind = RunKind.of c then (kind, c :: run) :: others
          else (RunKind.of c, [c]) :: (kind, run) :: others
      | [] => [(RunKind.of c, [c])]

/-- Whether a line may be broken in place of these blanks. -/
def breaksHere (blanks : Text) (mayBreak : Bool) : PrintM Bool := do
  return mayBreak && blanks.length == 1 && bestWidth < (← get).column

def writePlain (indent : Nat) (mayBreak : Bool) (text : Text) : PrintM Unit := do
  if text.isEmpty then return
  if !(← get).isBlank then write [' ']
  endIndentation
  for (kind, run) in runs text do
    if kind = .blanks then
      if ← breaksHere run mayBreak then
        writeIndent indent
        endIndentation
      else write run
    else write run

def writeSingleRuns (indent : Nat) (mayBreak isFirst : Bool) : List (RunKind × Text) → PrintM Unit
  | [] => return
  | (kind, run) :: rest => do
      match kind with
      | .blanks =>
          if ← breaksHere run (mayBreak && !isFirst && !rest.isEmpty) then writeIndent indent
          else write run
      | .breaks =>
          if run.head? == some '\n' then writeBreak '\n'
          for c in run do writeBreak c
          writeIndent indent
      | .other => write (run.flatMap fun c => if c == '\'' then ['\'', '\''] else [c])
      writeSingleRuns indent mayBreak false rest

def writeSingle (indent : Nat) (mayBreak : Bool) (text : Text) : PrintM Unit := do
  writeMark "'" true
  writeSingleRuns indent mayBreak true (runs text)
  writeMark "'" false

/-- Breaks a line inside double quotes; a blank that starts the next line is escaped. -/
def breakDouble (indent : Nat) (pending : Text) (following : Option Char) : PrintM Unit := do
  write (pending ++ ['\\'])
  writeIndent indent
  endIndentation
  if following == some ' ' then write ['\\']

/-- The rest of a text in double quotes. `pending` holds characters that are not yet written. -/
def writeDoubleFrom (indent : Nat) (mayBreak isFirst : Bool) (pending : Text) : Text → PrintM Unit
  | [] => write pending
  | c :: rest => do
      let inside := mayBreak && !isFirst && !rest.isEmpty
      if isEscaped c then
        write pending
        write (escape c)
        if inside && bestWidth + 1 < (← get).column then breakDouble indent [] rest.head?
        writeDoubleFrom indent mayBreak false [] rest
      else if inside && (c == ' ' || pending.isEmpty) &&
          bestWidth < (← get).column + pending.length then
        breakDouble indent pending (some c)
        writeDoubleFrom indent mayBreak false [c] rest
      else writeDoubleFrom indent mayBreak false (pending ++ [c]) rest

def writeDouble (indent : Nat) (mayBreak : Bool) (text : Text) : PrintM Unit := do
  writeMark "\"" true
  writeDoubleFrom indent mayBreak true [] text
  writeMark "\"" false

/-- A scalar inside a collection at a column; a key stays on its line. -/
def writeScalar (indent : Nat) (isKey : Bool) (scalar : Written) : PrintM Unit :=
  match scalar.style isKey with
  | .plain => writePlain indent (!isKey) scalar.text
  | .single => writeSingle indent (!isKey) scalar.text
  | .double => writeDouble indent (!isKey) scalar.text

end Scalars

section Values

def decimalText : Decimal → String
  | .infinite negative => if negative then "-.inf" else ".inf"
  | .undefined => ".nan"
  | number =>
      let text := Shortest.text number
      if text.toList.contains '.' then text
      else
        let head := text.toList.takeWhile (· != 'e')
        String.ofList (head ++ ".0".toList ++ text.toList.drop head.length)

/-- The scalar that a value is written as, if it is one. -/
def scalarOf? : Value → Option Written
  | .null => some ⟨"null".toList, true, 6⟩
  | .bool truth => some ⟨(if truth then "true" else "false").toList, true, 6⟩
  | .int n => some ⟨(toString n).toList, true, 5⟩
  | .decimal n => some ⟨(decimalText n).toList, true, 7⟩
  | .date text => some ⟨text.toList, true, 11⟩
  | .string text => some ⟨text.toList, Tag.ofPlain text.toList = .str, 5⟩
  | .list .. => none
  | .mapping .. => none

/-- The collections met so far, and the numbers of those that were met again. -/
structure Mentions where
  met : List Nat := []
  named : List (Nat × Nat) := []

/-- Meets a collection; its content is looked at the first time only. -/
def Mentions.meet (mentions : Mentions) (label : Option Nat) (inside : Mentions → Mentions) :
    Mentions :=
  match label with
  | none => inside mentions
  | some label =>
      if !mentions.met.contains label then inside { mentions with met := label :: mentions.met }
      else if (mentions.named.lookup label).isSome then mentions
      else { mentions with named := mentions.named ++ [(label, mentions.named.length + 1)] }

mutual

def mentionsOf (mentions : Mentions) : Value → Mentions
  | .list label items => mentions.meet label fun inner => mentionsOfItems inner items
  | .mapping label entries => mentions.meet label fun inner => mentionsOfEntries inner entries
  | _ => mentions

def mentionsOfItems (mentions : Mentions) : List Value → Mentions
  | [] => mentions
  | item :: rest => mentionsOfItems (mentionsOf mentions item) rest

def mentionsOfEntries (mentions : Mentions) : List (Value × Value) → Mentions
  | [] => mentions
  | (key, value) :: rest => mentionsOfEntries (mentionsOf (mentionsOf mentions key) value) rest

end

def anchorText (number : Nat) : String :=
  let digits := toString number
  "id" ++ Shortest.zeros (3 - digits.length) ++ digits

/-- Writes a collection, or its name if it was written before. -/
def writeNamed (named : List (Nat × Nat)) (label : Option Nat) (content : PrintM Unit) :
    PrintM Unit := do
  match label.bind fun label => (named.lookup label).map (label, ·) with
  | none => content
  | some (label, number) =>
      if (← get).seen.contains label then writeMark ("*" ++ anchorText number) true
      else
        modify fun output => { output with seen := label :: output.seen }
        writeMark ("&" ++ anchorText number) true
        content

/-- The column of a collection inside one at the given column. -/
def deeper : Option Nat → Nat
  | none => 0
  | some indent => indent + 2

/-- The column to which the lines of a scalar are indented. -/
def scalarIndent : Option Nat → Nat
  | none => 2
  | some indent => indent + 2

def writeKey (indent : Nat) (scalar : Written) : PrintM Unit := do
  writeIndent indent
  if scalar.isSimpleKey then
    writeScalar (indent + 2) true scalar
    writeMark ":" false
  else
    writeEntryMark "?"
    writeScalar (indent + 2) false scalar
    writeIndent indent
    writeEntryMark ":"

mutual

/-- Writes a value inside a collection at a column, `inMapping` if it follows a key. -/
def writeValue (named : List (Nat × Nat)) (indent : Option Nat) (inMapping : Bool) :
    Value → PrintM Unit
  | .list label items =>
      if items.isEmpty then writeNamed named label (writeMark "[]" true)
      else writeNamed named label do
        let column :=
          if inMapping && !(← get).isIndented then indent.getD 0 else deeper indent
        writeItems named column items
  | .mapping label entries =>
      if entries.isEmpty then writeNamed named label (writeMark "\x7b\x7d" true)
      else writeNamed named label (writeEntries named (deeper indent) entries)
  | scalar => writeScalar (scalarIndent indent) false ((scalarOf? scalar).getD ⟨[], false, 0⟩)

def writeItems (named : List (Nat × Nat)) (indent : Nat) : List Value → PrintM Unit
  | [] => return
  | item :: rest => do
      writeIndent indent
      writeEntryMark "-"
      writeValue named indent false item
      writeItems named indent rest

def writeEntries (named : List (Nat × Nat)) (indent : Nat) : List (Value × Value) → PrintM Unit
  | [] => return
  | (key, value) :: rest => do
      writeKey indent ((scalarOf? key).getD ⟨[], false, 0⟩)
      writeValue named indent true value
      writeEntries named indent rest

end

def isOpenEnded (value : Value) : Bool :=
  match scalarOf? value with
  | some scalar => scalar.style false = .plain
  | none => false

def print (value : Value) : String :=
  let named := (mentionsOf {} value).named
  let document : PrintM Unit := do
    writeValue named none false value
    writeIndent 0
    if isOpenEnded value then
      writeMark "..." true
      writeIndent 0
  String.ofList (document.run {}).2.written.reverse

end Values

end PatternInspector.Yaml
