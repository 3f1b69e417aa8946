import PatternInspector.Text.Case
import PatternInspector.Yaml.Node
import PatternInspector.Yaml.Number

/-!
The value of a YAML document.

Keys are texts, numbers, dates, truth values or nothing; of two equal keys the first gives the place
and the last the value. Numbers and truth values are equal as keys if they are equal as numbers.
-/
namespace PatternInspector.Yaml

section Keys

def numberOf? : Value → Option (Int × Nat)
  | .bool truth => some (if truth then 1 else 0, 0)
  | .int n => some (n, 0)
  | .decimal (.finite negative mantissa exponent) =>
      let signed : Int := if negative then -mantissa else mantissa
      if 0 ≤ exponent then some (signed * Int.pow 10 exponent.toNat, 0)
      else some (signed, (-exponent).toNat)
  | _ => none

def sameKey : Value → Value → Bool
  | .null, .null => true
  | .string a, .string b => a == b
  | .date a, .date b => a == b
  | .decimal (.infinite a), .decimal (.infinite b) => a == b
  | a, b =>
      match numberOf? a, numberOf? b with
      | some (m, j), some (n, k) => m * Int.pow 10 k == n * Int.pow 10 j
      | _, _ => false

/-- The entries with one more; an equal key keeps its place. -/
def insertEntry (key value : Value) : List (Value × Value) → List (Value × Value)
  | [] => [(key, value)]
  | (known, old) :: rest =>
      if sameKey known key then (known, value) :: rest
      else (known, old) :: insertEntry key value rest

def isKeyValue : Value → Bool
  | .list .. => false
  | .mapping .. => false
  | _ => true

end Keys

section Values

def Node.tag : Node → Tag
  | .scalar tag _ => tag
  | .sequence _ tag _ => tag
  | .mapping _ tag _ => tag

/-- The entry under the key for the value of a scalar. -/
def valueEntry? : List (Node × Node) → Option Node
  | [] => none
  | (key, value) :: rest => if key.tag = .value then some value else valueEntry? rest

/-- The text of a scalar; a mapping can stand for the scalar under its value key. -/
def scalarText : Nat → Node → Except Fault Text
  | 0, _ => .error .malformed
  | fuel + 1, node =>
      match node with
      | .scalar _ text => .ok text
      | .mapping _ _ entries =>
          match valueEntry? entries with
          | some value => scalarText fuel value
          | none => .error .malformed
      | .sequence .. => .error .malformed

def timestamp (text : Text) : Except Fault Value :=
  if isWhole timestampReader text || isWhole looseDate text then (moment text).map .date
  else .error .badDate
where
  looseDate : Text.Reader Unit := do
    fourDigits
    Text.Reader.single '-'
    oneOrTwoDigits
    Text.Reader.single '-'
    oneOrTwoDigits

def truthValue (text : Text) : Except Fault Value :=
  match truth? (lowerString (String.ofList text)) with
  | some truth => .ok (.bool truth)
  | none => .error .badTruth

def scalarValue (tag : Tag) (text : Text) : Except Fault Value :=
  match tag with
  | .null => .ok .null
  | .bool => truthValue text
  | .int => (integer text).map .int
  | .float => (decimal text).map .decimal
  | .timestamp => timestamp text
  | .str => .ok (.string (String.ofList text))
  | _ => .error .malformed

/-- The key for the value of a scalar counts as a text among other keys. -/
def valueKey (text : Text) : Value := .string (String.ofList text)

mutual

def value : Nat → Node → Except Fault Value
  | 0, _ => .error .malformed
  | fuel + 1, node =>
      match node.tag, node with
      | .seq, .sequence label _ items => return .list (some label) (← values fuel items)
      | .map, .mapping label _ entries => do
          let (merged, own) ← entryValues fuel entries
          return .mapping (some label)
            ((merged ++ own).foldl (fun known entry => insertEntry entry.1 entry.2 known) [])
      | .set, .mapping label _ entries => do
          let (merged, own) ← entryValues fuel entries
          return .list (some label) ((merged ++ own).map (·.1))
      | .pairs, .sequence label _ items => return .list (some label) (← pairValues fuel items)
      | tag, node => do scalarValue tag (← scalarText fuel node)

def values : Nat → List Node → Except Fault (List Value)
  | 0, _ => .error .malformed
  | _, [] => .ok []
  | fuel + 1, item :: rest => return (← value fuel item) :: (← values fuel rest)

/-- Each item of a list of pairs is a mapping with one entry. -/
def pairValues : Nat → List Node → Except Fault (List Value)
  | 0, _ => .error .malformed
  | _, [] => .ok []
  | fuel + 1, item :: rest =>
      match item with
      | .mapping _ _ [(key, content)] =>
          return .items [← value fuel key, ← value fuel content] :: (← pairValues fuel rest)
      | _ => .error .malformed

/-- The entries that a mapping takes over from others, and its own. -/
def entryValues : Nat → List (Node × Node) →
    Except Fault (List (Value × Value) × List (Value × Value))
  | 0, _ => .error .malformed
  | _, [] => .ok ([], [])
  | fuel + 1, (key, content) :: rest => do
      match key.tag with
      | .merge =>
          let taken ← takenOver fuel content
          let (merged, own) ← entryValues fuel rest
          return (taken ++ merged, own)
      | tag =>
          let keyValue ← if tag = .value then valueKey <$> scalarText fuel key else value fuel key
          if !isKeyValue keyValue then throw .malformed
          let contentValue ← value fuel content
          let (merged, own) ← entryValues fuel rest
          return (merged, (keyValue, contentValue) :: own)

/-- The entries of a mapping, or of several of which the earlier ones win. -/
def takenOver : Nat → Node → Except Fault (List (Value × Value))
  | 0, _ => .error .malformed
  | fuel + 1, node =>
      match node with
      | .mapping _ _ entries => do
          let (merged, own) ← entryValues fuel entries
          return merged ++ own
      | .sequence _ _ items => takenOverAll fuel items
      | .scalar .. => .error .malformed

def takenOverAll : Nat → List Node → Except Fault (List (Value × Value))
  | 0, _ => .error .malformed
  | _, [] => .ok []
  | fuel + 1, item :: rest =>
      match item with
      | .mapping .. => do
          let first ← takenOver fuel item
          return (← takenOverAll fuel rest) ++ first
      | _ => .error .malformed

end

end Values

/-- The value of a text, nothing for a text without a document. -/
def read (text : Text) : Except Fault Value := do
  match ← readNode text with
  | (none, _) => return .null
  | (some node, fuel) => value fuel node

end PatternInspector.Yaml
