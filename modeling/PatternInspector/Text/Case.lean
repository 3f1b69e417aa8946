import PatternInspector.Text.Basic
import PatternInspector.Text.CaseTable

/-!
Case mapping of whole texts. One character may become several (`ß` in upper case is `SS`), and the
capital sigma has two lower-case forms: the final one stands where a cased character precedes it and
none follows, characters that are ignorable in a case context left aside.
-/
namespace PatternInspector.Text

section Characters

def CaseRun.map? (run : CaseRun) (code : Nat) : Option Nat :=
  if run.first ≤ code && code ≤ run.last && (code - run.first) % run.stride == 0 then
    some (Int.toNat (code + run.delta))
  else none

def mapSingle (runs : List CaseRun) (c : Char) : Char :=
  match runs.findSome? fun run => run.map? c.toNat with
  | some code => Char.ofNat code
  | none => c

def mapSequence? (sequences : List (Nat × List Nat)) (c : Char) : Option Text :=
  (sequences.lookup c.toNat).map (·.map Char.ofNat)

def upperChar (c : Char) : Text :=
  (mapSequence? upperSequences c).getD [mapSingle upperRuns c]

def titleChar (c : Char) : Text :=
  match mapSequence? titleSequences c with
  | some sequence => sequence
  | none =>
      match titleRuns.findSome? fun run => run.map? c.toNat with
      | some code => [Char.ofNat code]
      | none => upperChar c

/-- Lower case of a character that does not depend on its neighbours. -/
def lowerChar (c : Char) : Text :=
  (mapSequence? lowerSequences c).getD [mapSingle lowerRuns c]

/-- The one-character lower case: the first character of the full one. -/
def lowerSimple (c : Char) : Char := (lowerChar c).headD c

def isCased (c : Char) : Bool := inRanges casedRanges c

def isCaseIgnorable (c : Char) : Bool := inRanges caseIgnorableRanges c

end Characters

section Texts

def upper (text : Text) : Text := text.flatMap upperChar

/-- Whether the nearest character that is not ignorable has a case. -/
def touchesCased (neighbours : Text) : Bool :=
  match neighbours.dropWhile isCaseIgnorable with
  | [] => false
  | c :: _ => isCased c

def capitalSigma : Char := 'Σ'

/-- Lower case of `text`, where `before` holds the characters before it, nearest first. -/
def lowerAfter (before : Text) : Text → Text
  | [] => []
  | c :: rest =>
      let mapped :=
        if c == capitalSigma then
          [if touchesCased before && !touchesCased rest then 'ς' else 'σ']
        else lowerChar c
      mapped ++ lowerAfter (c :: before) rest

def lower (text : Text) : Text := lowerAfter [] text

/-- Title case for the first character and lower case for all others. -/
def capitalize : Text → Text
  | [] => []
  | c :: rest => titleChar c ++ lowerAfter [c] rest

end Texts

section Insensitive

def sameLetter (expected c : Char) : Bool :=
  if lowerChar expected == [expected] && upperChar expected == [expected] then c == expected
  else
    let low := lowerSimple expected
    let found := lowerSimple c
    found == low || ((caseTwins.lookup low.toNat).getD []).contains found.toNat

end Insensitive

end PatternInspector.Text

namespace PatternInspector

def upperString (s : String) : String := String.ofList (Text.upper s.toList)

def lowerString (s : String) : String := String.ofList (Text.lower s.toList)

end PatternInspector
