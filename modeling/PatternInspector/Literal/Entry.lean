import PatternInspector.Literal.Group
import PatternInspector.Text.Reader

/-!
Entries of object and type literals: the named members between a brace and its closing brace.

The inside is cut at the separators that stand outside brackets and trivia. A segment is an entry if,
after its leading comments, it starts with a key; spreads and computed keys are none.
-/
namespace PatternInspector.Literal

open PatternInspector.Text (Reader)

/-- A named member: its key, its value (the whole member if no colon follows the key) and the
position where it was found. -/
structure Entry where
  key : String
  value : Text
  start : Nat
  deriving DecidableEq

section Segments

/-- Separators of the mode: members of a type also end at semicolons and line ends. -/
def isSeparator (typeLiteral : Bool) (c : Char) : Bool :=
  c == ',' || (typeLiteral && (c == ';' || c == '\n'))

def pushFirst (c : Char) : List Text → List Text
  | [] => [[c]]
  | segment :: others => (c :: segment) :: others

/-- Cuts the inside of a literal at the separators outside brackets and trivia. -/
def segmentsFrom (typeLiteral : Bool) (depth : Int) (before : Char) (skip : Nat) :
    Text → List Text
  | [] => [[]]
  | c :: rest =>
      match skip with
      | left + 1 => pushFirst c (segmentsFrom typeLiteral depth c left rest)
      | 0 =>
          match triviaLength (c :: rest) with
          | length + 1 => pushFirst c (segmentsFrom typeLiteral depth c length rest)
          | 0 =>
              if depth == 0 && isSeparator typeLiteral c then
                [] :: segmentsFrom typeLiteral depth c 0 rest
              else if opens typeLiteral c then
                pushFirst c (segmentsFrom typeLiteral (depth + 1) c 0 rest)
              else if closes typeLiteral before c then
                pushFirst c (segmentsFrom typeLiteral (depth - 1) c 0 rest)
              else pushFirst c (segmentsFrom typeLiteral depth c 0 rest)

/-- Pairs each segment with its position; one separator stands between two segments. -/
def placed (start : Nat) : List Text → List (Nat × Text)
  | [] => []
  | segment :: others => (start, segment) :: placed (start + segment.length + 1) others

end Segments

section Keys

def modifierWords : List String := ["async", "get", "set", "static", "readonly"]

/-- A key in quotes of one kind, with at least one character between them. -/
def quotedKey : Reader Text := do
  let quote ← Reader.char Text.isQuote
  let key ← Reader.matched do
    let _ ← Reader.char fun _ => true
    Reader.few fun _ => true
  Reader.single quote
  return key

/-- What follows a key; nothing at the end of the member. -/
def keyEnd : Reader (Option Char) :=
  Reader.orElse
    (do let mark ← Reader.char fun c => c == ':' || c == '(' || c == '<'; return some mark)
    (do Reader.atEnd; return none)

/-- Modifiers and an asterisk, then the key, a question mark, and what follows the key. -/
def memberKey (limit : Nat) : Reader (Text × Option Char) := do
  Reader.repeated (do Reader.words modifierWords; Reader.blanks1) limit
  let _ ← Reader.optional (Reader.single '*')
  Reader.blanks
  let key ← Reader.orElse quotedKey (Reader.matched Reader.name)
  Reader.blanks
  let _ ← Reader.optional (Reader.single '?')
  Reader.blanks
  let mark ← keyEnd
  return (key, mark)

end Keys

section Entries

def isSpread (member : Text) : Bool := ['.', '.', '.'].isPrefixOf member

/-- The entry that a segment holds, if any. Its position is that of the first character of the
segment that equals the first character of the member. -/
def entryOf? (start : Nat) (segment : Text) : Option Entry :=
  match Text.strip (dropComments segment) with
  | [] => none
  | c :: rest =>
      let member := c :: rest
      if isSpread member then none
      else
        match (memberKey member.length).first? (Text.Cursor.start member) with
        | none => none
        | some ((key, mark), after) =>
            let value := if mark == some ':' then Text.strip after.rest else member
            some ⟨String.ofList key, value, start + (segment.findIdx? (· == c)).getD 0⟩

section Closings

variable {m : Type → Type} [Monad m] (closing : Closing m)

/-- The entries of the literal opened at `index`, in order; none if it never closes. -/
def entriesBy (text : Text) (index : Nat) (typeLiteral : Bool) : m (List Entry) := do
  match ← closing text index with
  | none => return []
  | some close =>
      let inside := Text.slice text (index + 1) close
      let opener := (text[index]?).getD ' '
      return (placed (index + 1) (segmentsFrom typeLiteral 0 opener 0 inside)).filterMap
        fun segment => entryOf? segment.1 segment.2

def entryKeys (text : Text) (index : Nat) (typeLiteral : Bool) : m (List String) :=
  return (← entriesBy closing text index typeLiteral).map (·.key)

end Closings

def objectEntries (text : Text) (index : Nat) (typeLiteral : Bool) :
    Except ScanFault (List Entry) :=
  entriesBy findClosing text index typeLiteral

end Entries

section Items

/-- A non-empty text between two quotes of one kind that holds no quote of either kind. -/
def quotedItem : Reader Text := do
  let quote ← Reader.char Text.isQuote
  let item ← Reader.matched (Reader.many1 fun c => !Text.isQuote c)
  Reader.single quote
  return item

/-- The contents of the quoted texts of an array, in order. -/
def stringItems (text : Text) : List String :=
  (Reader.findAll quotedItem text).map fun found => String.ofList found.value

end Items

end PatternInspector.Literal
