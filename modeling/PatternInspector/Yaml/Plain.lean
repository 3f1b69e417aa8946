import PatternInspector.Text.Reader

/-!
The kinds of nodes, and the kind of a plain scalar, which its text decides.
-/
namespace PatternInspector.Yaml

section Tags

inductive Tag where
  | null
  | bool
  | int
  | float
  | timestamp
  | str
  | seq
  | map
  | pairs
  | set
  /-- The key under which a mapping takes over the entries of others. -/
  | merge
  /-- The key for the value of a mapping that stands for a scalar. -/
  | value
  /-- A kind that no document of ours may use. -/
  | unknown
  deriving DecidableEq

def Tag.ofName : String → Tag
  | "tag:yaml.org,2002:null" => .null
  | "tag:yaml.org,2002:bool" => .bool
  | "tag:yaml.org,2002:int" => .int
  | "tag:yaml.org,2002:float" => .float
  | "tag:yaml.org,2002:timestamp" => .timestamp
  | "tag:yaml.org,2002:str" => .str
  | "tag:yaml.org,2002:seq" => .seq
  | "tag:yaml.org,2002:map" => .map
  | "tag:yaml.org,2002:omap" => .pairs
  | "tag:yaml.org,2002:pairs" => .pairs
  | "tag:yaml.org,2002:set" => .set
  | "tag:yaml.org,2002:merge" => .merge
  | "tag:yaml.org,2002:value" => .value
  | _ => .unknown

end Tags

section Readers

open Text (Reader)
open Text.Reader (char single many many1 optional oneOf words repeated)

def isWhole (reader : Reader Unit) (text : Text) : Bool :=
  (reader (Text.Cursor.start text)).any fun result => result.2.rest.isEmpty

def sign : Reader Unit := do let _ ← optional (char fun c => c == '-' || c == '+')

def digit : Reader Unit := do let _ ← char Text.isDigit

def isDigitOrGap (c : Char) : Bool := Text.isDigit c || c == '_'

def digits : Reader Unit := do
  digit
  many isDigitOrGap

def exponent : Reader Unit := do
  let _ ← char fun c => c == 'e' || c == 'E'
  let _ ← char fun c => c == '-' || c == '+'
  many1 Text.isDigit

def sixtieth : Reader Unit := do
  single ':'
  let _ ← optional (char fun c => '0' ≤ c && c ≤ '5')
  digit

/-- At least one such part; longer texts than the limit are no numbers in practice. -/
def sixtieths : Reader Unit := do
  sixtieth
  repeated sixtieth 64

def floatReader : Reader Unit := oneOf [
  do sign; digits; single '.'; many isDigitOrGap; let _ ← optional exponent,
  do single '.'; digits; let _ ← optional exponent,
  do sign; digits; sixtieths; single '.'; many isDigitOrGap,
  do sign; single '.'; words ["inf", "Inf", "INF"],
  do single '.'; words ["nan", "NaN", "NAN"]]

def leadingDigit : Reader Unit := do let _ ← char fun c => '1' ≤ c && c ≤ '9'

def isHexOrGap (c : Char) : Bool :=
  isDigitOrGap c || ('a' ≤ c && c ≤ 'f') || ('A' ≤ c && c ≤ 'F')

def intReader : Reader Unit := oneOf [
  do sign; words ["0b"]; many1 fun c => c == '0' || c == '1' || c == '_',
  do sign; single '0'; many1 fun c => ('0' ≤ c && c ≤ '7') || c == '_',
  do sign; single '0',
  do sign; leadingDigit; many isDigitOrGap,
  do sign; words ["0x"]; many1 isHexOrGap,
  do sign; leadingDigit; many isDigitOrGap; sixtieths]

def twoDigits : Reader Unit := do digit; digit

def oneOrTwoDigits : Reader Unit := do digit; let _ ← optional (char Text.isDigit)

def fourDigits : Reader Unit := do twoDigits; twoDigits

def isTimeGap (c : Char) : Bool := c == ' ' || c == '\t'

def zone : Reader Unit := do
  many isTimeGap
  oneOf [
    single 'Z',
    do
      let _ ← char fun c => c == '-' || c == '+'
      oneOrTwoDigits
      let _ ← optional (do single ':'; twoDigits)]

def clock : Reader Unit := do
  oneOf [do let _ ← char fun c => c == 'T' || c == 't', many1 isTimeGap]
  oneOrTwoDigits
  single ':'
  twoDigits
  single ':'
  twoDigits
  let _ ← optional (do single '.'; many Text.isDigit)
  let _ ← optional zone

def timestampReader : Reader Unit := oneOf [
  do fourDigits; single '-'; twoDigits; single '-'; twoDigits,
  do fourDigits; single '-'; oneOrTwoDigits; single '-'; oneOrTwoDigits; clock]

end Readers

section Kinds

def nullWords : List String := ["~", "null", "Null", "NULL", ""]

def boolWords : List String := [
  "yes", "Yes", "YES", "no", "No", "NO", "true", "True", "TRUE", "false", "False", "FALSE",
  "on", "On", "ON", "off", "Off", "OFF"]

def Tag.ofPlain (text : Text) : Tag :=
  let word := String.ofList text
  if boolWords.contains word then .bool
  else if isWhole floatReader text then .float
  else if isWhole intReader text then .int
  else if word == "<<" then .merge
  else if nullWords.contains word then .null
  else if isWhole timestampReader text then .timestamp
  else if word == "=" then .value
  else .str

end Kinds

end PatternInspector.Yaml
