import PatternInspector.Config.Issue
import PatternInspector.Finding.Severity
import PatternInspector.Text.Basic
import PatternInspector.Value.Shortest

/-!
Checks of configuration data against what a rule needs.

A check gives a value in every case and lists what was wrong on the way, so that one run reports all
issues: those of the known fields in their order, then unknown keys in the order given.
-/
namespace PatternInspector.Config

section Checked

/-- A value together with the issues found while it was read. -/
structure Checked (α : Type) where
  issues : List Issue
  value : α

namespace Checked

variable {α β : Type}

protected def bind (first : Checked α) (next : α → Checked β) : Checked β :=
  let second := next first.value
  ⟨first.issues ++ second.issues, second.value⟩

instance : Monad Checked where
  pure value := ⟨[], value⟩
  bind := Checked.bind

def failed (fallback : α) (kind : IssueKind) : Checked α := ⟨[⟨[], kind⟩], fallback⟩

/-- The same with all issues placed under a key or position. -/
def under (key : Value) (checked : Checked α) : Checked α :=
  ⟨checked.issues.map fun issue => ⟨key :: issue.path, issue.kind⟩, checked.value⟩

def toExcept (checked : Checked α) : Except (List Issue) α :=
  if checked.issues.isEmpty then .ok checked.value else .error checked.issues

end Checked

end Checked

section Booleans

def asciiLower (c : Char) : Char := if Text.isUpperLetter c then Char.ofNat (c.toNat + 32) else c

def trueWords : List String := ["1", "on", "t", "true", "y", "yes"]

def falseWords : List String := ["0", "off", "f", "false", "n", "no"]

def boolOfText? (text : String) : Option Bool :=
  let word := String.ofList (text.toList.map asciiLower)
  if trueWords.contains word then some true
  else if falseWords.contains word then some false
  else none

def boolOfInt? (number : Int) : Option Bool :=
  if number == 0 then some false else if number == 1 then some true else none

/-- The integer that a decimal stands for, if it has no fraction. -/
def wholeNumber? : Decimal → Option Int
  | .finite negative mantissa exponent =>
      let signed (n : Nat) : Int := if negative then -n else n
      if 0 ≤ exponent then some (signed (mantissa * Nat.pow 10 exponent.toNat))
      else
        let scale := Nat.pow 10 (-exponent).toNat
        if mantissa % scale == 0 then some (signed (mantissa / scale)) else none
  | _ => none

def readBool (found : Option Bool) (fallback : Bool) : Checked Bool :=
  match found with
  | some truth => pure truth
  | none => .failed fallback .unreadableBoolean

/-- Truth values, zero and one, and the words for them in any letter case. -/
def checkBool (fallback : Bool) : Value → Checked Bool
  | .bool truth => pure truth
  | .string text => readBool (boolOfText? text) fallback
  | .int number => readBool (boolOfInt? number) fallback
  | .decimal number =>
      match wholeNumber? number with
      | some whole => readBool (boolOfInt? whole) fallback
      | none => .failed fallback .notABoolean
  | _ => .failed fallback .notABoolean

end Booleans

section Integers

def isWordSized (number : Int) : Bool := -Int.pow 2 63 ≤ number && number < Int.pow 2 63

def digitValue (c : Char) : Nat := c.toNat - '0'.toNat

def natOfDigits (digits : Text) : Nat := digits.foldl (fun n c => 10 * n + digitValue c) 0

def plainNat? (text : Text) : Option Nat :=
  match text with
  | [] => none
  | '0' :: _ :: _ => none
  | digits => if digits.all Text.isDigit then some (natOfDigits digits) else none

/-- A plain number, after a minus sign for a negative one. -/
def plainInt? : Text → Option Int
  | '-' :: digits => (plainNat? digits).map fun n => -(n : Int)
  | digits => (plainNat? digits).map fun n => (n : Int)

/-- White space that may stand around a number in a text. -/
def isNumberBlank (c : Char) : Bool := Text.isBlank c && !(0x1c ≤ c.toNat && c.toNat ≤ 0x1f)

def trimNumber (text : Text) : Text :=
  ((text.dropWhile isNumberBlank).reverse.dropWhile isNumberBlank).reverse

/-- The number without its leading zeros and the underscores among them; a zero before a point or at
the end stays. -/
def dropLeadingZeros : Text → Option Text
  | '0' :: rest =>
      match rest.dropWhile fun c => c == '0' || c == '_' with
      | [] => some [(('0' :: rest).getLast?).getD '0']
      | '.' :: fraction =>
          let passed := rest.length - fraction.length - 1
          some ((('0' :: rest).drop passed).take 1 ++ '.' :: fraction)
      | c :: others => if '1' ≤ c && c ≤ '9' then some (c :: others) else none
  | c :: rest => if ('1' ≤ c && c ≤ '9') || c == '-' then some (c :: rest) else none
  | [] => none

def dropZeroFraction (text : Text) : Text :=
  let whole := text.takeWhile (· != '.')
  let fraction := (text.drop whole.length).drop 1
  if text.contains '.' && fraction.all (· == '0') then whole else text

def doubledUnderscore : Text → Bool
  | '_' :: '_' :: _ => true
  | _ :: rest => doubledUnderscore rest
  | [] => false

def dropUnderscores (text : Text) : Text :=
  if text.head? == some '_' || text.getLast? == some '_' || doubledUnderscore text then text
  else text.filter (· != '_')

/-- A number written with blanks around it, a plus sign, leading zeros, a fraction of zeros or
underscores, in plain form. -/
def cleanNumber (text : Text) : Option Text :=
  let trimmed := trimNumber text
  let unsigned? :=
    match trimmed with
    | '+' :: '-' :: _ => none
    | '+' :: rest => some rest
    | other => some other
  (unsigned?.bind dropLeadingZeros).map fun digits => dropUnderscores (dropZeroFraction digits)

def maxDigits : Nat := 4300

inductive IntegerReading where
  | number (value : Int)
  | oversized
  | unreadable

def readPlain (text : Text) : IntegerReading :=
  match plainInt? text with
  | none => .unreadable
  | some value =>
      if maxDigits < (text.filter Text.isDigit).length then .oversized else .number value

def intOfText (text : Text) : IntegerReading :=
  match readPlain text with
  | .unreadable =>
      match cleanNumber text with
      | none => .unreadable
      | some cleaned => readPlain cleaned
  | reading => reading

/-- A number, also as a truth value, a decimal without fraction, or a text. -/
def integerOf : Value → Except IssueKind Int
  | .int number => .ok number
  | .bool truth => .ok (if truth then 1 else 0)
  | .string text =>
      match intOfText text.toList with
      | .number value => .ok value
      | .oversized => .error .oversizedInteger
      | .unreadable => .error .unreadableInteger
  | .decimal number =>
      match number, wholeNumber? number with
      | .finite .., some whole =>
          if isWordSized whole then .ok whole else .error .oversizedInteger
      | .finite .., none => .error .fractionalInteger
      | _, _ => .error .infiniteInteger
  | _ => .error .notAnInteger

def checkInteger (fallback : Int) (value : Value) : Checked Int :=
  match integerOf value with
  | .ok number => pure number
  | .error kind => .failed fallback kind

def checkPositive (fallback : Nat) (value : Value) : Checked Nat :=
  match integerOf value with
  | .ok number => if 0 < number then pure number.toNat else .failed fallback .notPositive
  | .error kind => .failed fallback kind

end Integers

section Choices

def checkChoice {α : Type} (ofLabel? : String → Option α) (fallback : α) : Value → Checked α
  | .string text =>
      match ofLabel? text with
      | some choice => pure choice
      | none => .failed fallback .notAChoice
  | _ => .failed fallback .notAChoice

def checkSeverity (fallback : Severity) : Value → Checked Severity :=
  checkChoice Severity.ofLabel? fallback

end Choices

section Mappings

abbrev Entries := List (Value × Value)

/-- A field of a mapping, or its default where the mapping does not have it. -/
def field {α : Type} (entries : Entries) (name : String) (default : α)
    (check : α → Value → Checked α) : Checked α :=
  match Value.lookup name entries with
  | none => pure default
  | some value => (check default value).under (.string name)

def numbersIn (text : Text) : List String :=
  ((text.map fun c => if Text.isDigit c then c else ' ').splitOn ' ').filterMap fun digits =>
    if digits.isEmpty then none else some (toString (natOfDigits digits))

/-- A date or time as its parts; seconds and their fractions are left out if they are zero. -/
def momentParts (text : Text) : String :=
  match numbersIn text with
  | [year, month, day] => "datetime.date(" ++ joinWith ", " [year, month, day] ++ ")"
  | [year, month, day, hour, minute, "0"] =>
      "datetime.datetime(" ++ joinWith ", " [year, month, day, hour, minute] ++ ")"
  | parts => "datetime.datetime(" ++ joinWith ", " parts ++ ")"

/-- How a key that is not a text is named in a path. -/
def pathKey : Value → Value
  | .bool truth => .int (if truth then 1 else 0)
  | .int number => if isWordSized number then .int number else .string (toString number)
  | .null => .string "None"
  | .decimal number => .string (Shortest.text number)
  | .date text => .string (momentParts text.toList)
  | key => key

def keyIssue? (known : List String) (entry : Value × Value) : Option Issue :=
  match entry.1 with
  | .string key => if known.contains key then none else some ⟨[.string key], .unknownKey⟩
  | key => some ⟨[pathKey key], .invalidKey⟩

def record {α : Type} (known : List String) (read : α → Entries → Checked α) (default : α) :
    Value → Checked α
  | .mapping _ entries =>
      let checked := read default entries
      ⟨checked.issues ++ entries.filterMap (keyIssue? known), checked.value⟩
  | _ => .failed default .notAMapping

end Mappings

end PatternInspector.Config
