import PatternInspector.Text.Hex
import PatternInspector.Yaml.Cursor
import PatternInspector.Yaml.Plain

/-!
How a scalar is written: plain where it reads back as the same kind, else in single quotes, and in
double quotes where it holds characters that need an escape.
-/
namespace PatternInspector.Yaml

inductive Style where
  | plain
  | single
  | double
  deriving DecidableEq

section Analysis

/-- Line ends as far as they are written out. -/
def isWrittenBreak (c : Char) : Bool := isBreak c && c != '\r'

def needsEscape (c : Char) : Bool :=
  !(c == '\n' || Text.inRanges [(0x20, 0x7e), (0x85, 0x85), (0xa0, 0xd7ff), (0xe000, 0xfefe),
    (0xff00, 0xfffd), (0x10000, 0x10fffe)] c)

/-- Whether a character of the first class stands right before one of the second. -/
def hasAdjacent (first second : Char → Bool) : Text → Bool
  | c :: d :: rest => (first c && second d) || hasAdjacent first second (d :: rest)
  | _ => false

def isMultiline (text : Text) : Bool := text.any isWrittenBreak

def startsWithMark (text : Text) : Bool :=
  match text with
  | [] => false
  | c :: rest =>
      "#,[]\x7b\x7d&*!|>'\"%@\x60".toList.contains c ||
      (endsToken rest.head? && (c == '?' || c == ':' || c == '-')) ||
      text.take 3 == ['-', '-', '-'] || text.take 3 == ['.', '.', '.']

/-- A colon before a separator, or a hash sign after one. -/
def hasInnerMark : Text → Bool
  | c :: d :: rest =>
      (d == ':' && endsToken rest.head?) || (d == '#' && endsToken (some c)) ||
        hasInnerMark (d :: rest)
  | _ => false

def isOuterSpace (c : Char) : Bool := c == ' ' || isWrittenBreak c

def allowsPlain (text : Text) : Bool :=
  !(text.head?.any isOuterSpace || text.getLast?.any isOuterSpace || text.any needsEscape ||
    isMultiline text || startsWithMark text || hasInnerMark text)

def allowsSingle (text : Text) : Bool :=
  !(hasAdjacent isWrittenBreak (· == ' ') text || hasAdjacent (· == ' ') isWrittenBreak text ||
    text.any needsEscape)

end Analysis

/-- A scalar to be written: its text, and whether that text reads back as its kind without quotes. -/
structure Written where
  text : Text
  isPlainKind : Bool
  /-- Length of the short name of its tag. -/
  tagLength : Nat

/-- The style of a scalar; a key on one line cannot be empty or hold line ends without quotes. -/
def Written.style (scalar : Written) (isKey : Bool) : Style :=
  let unfit := isKey && (scalar.text.isEmpty || isMultiline scalar.text)
  if scalar.isPlainKind && !unfit && allowsPlain scalar.text then .plain
  else if allowsSingle scalar.text && !(isKey && isMultiline scalar.text) then .single
  else .double

def maxWrittenKey : Nat := 128

def Written.isSimpleKey (scalar : Written) : Bool :=
  scalar.tagLength + scalar.text.length < maxWrittenKey && !scalar.text.isEmpty &&
    !isMultiline scalar.text

section Escapes

def escapeNames : List (Char × Char) := [
  ('\x00', '0'), ('\x07', 'a'), ('\x08', 'b'), ('\t', 't'), ('\n', 'n'), ('\x0b', 'v'),
  ('\x0c', 'f'), ('\r', 'r'), ('\x1b', 'e'), ('"', '"'), ('\\', '\\'), ('\x85', 'N'),
  ('\xa0', '_'), ('\u2028', 'L'), ('\u2029', 'P')]

def isEscaped (c : Char) : Bool :=
  ['"', '\\', '\x85', '\u2028', '\u2029', '\ufeff'].contains c ||
    !Text.inRanges [(0x20, 0x7e), (0xa0, 0xd7ff), (0xe000, 0xfffd)] c

def upperHex (width n : Nat) : Text :=
  (Text.hex width n).map fun c => if Text.isLowerLetter c then Char.ofNat (c.toNat - 32) else c

def escape (c : Char) : Text :=
  let n := c.toNat
  match escapeNames.lookup c with
  | some name => ['\\', name]
  | none =>
      if n ≤ 0xff then '\\' :: 'x' :: upperHex 2 n
      else if n ≤ 0xffff then '\\' :: 'u' :: upperHex 4 n
      else '\\' :: 'U' :: upperHex 8 n

end Escapes

end PatternInspector.Yaml
