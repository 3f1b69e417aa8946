import PatternInspector.Proofs.Component.Scan
import PatternInspector.Proofs.Literal.Nesting

/-!
Type arguments of macros. The argument of a macro call is cut out of the script by a scan that counts
angle brackets and is then scanned again by one that does not; the second scan finds the closing brace,
because groups are nested and are found wherever their text stands.
-/
namespace PatternInspector.Component

open PatternInspector.Literal (findClosing OpensInside)

section Arguments

variable {text : Text} {index stop : Nat}

def argumentOf (text : Text) (index stop : Nat) : Text := Text.strip (Text.slice text (index + 1) stop)

theorem argument_closes (found : findClosing text index = .ok (some stop))
    (brace : (argumentOf text index stop).head? = some '\x7b') :
    ∃ close, findClosing (argumentOf text index stop) 0 = .ok (some close) := by
  obtain ⟨opener, closer, present, -⟩ := Literal.opener_of_found found
  obtain ⟨inner, closer, after, behind, rfl, -, inside, -⟩ := Literal.group_of_found found present
  rw [argumentOf, Literal.slice_inside behind] at brace ⊢
  exact Literal.stripped_brace_closes inside brace

/-- The literal is scanned at most once, at its start, and always unless events are found in it. -/
structure ScansLiteral (isEmits : Bool) (literal : Text) (scans : List Scan) : Prop where
  only : ∀ scan ∈ scans, scan = ⟨literal, 0⟩
  once : scans.length ≤ 1
  always : isEmits = false → scans ≠ []

theorem closing_noted {close : Nat} (found : findClosing text index = .ok (some close))
    (before : List Scan) : noted text index before = .ok (some close, before ++ [⟨text, index⟩]) := by
  rw [noted, found]
  rfl

theorem entry_keys_noted {close : Nat} (found : findClosing text index = .ok (some close))
    (typeLiteral : Bool) :
    ∃ keys, ∀ before,
      Literal.entryKeys noted text index typeLiteral before = .ok (keys, before ++ [⟨text, index⟩]) := by
  apply Exists.intro
  intro before
  change ((noted text index before >>= _) >>= _) = _
  rw [closing_noted found]
  rfl

theorem type_literal_noted {close : Nat} (found : findClosing text 0 = .ok (some close))
    (isEmits : Bool) :
    ∃ keys scans, ScansLiteral isEmits text scans ∧
      ∀ before, typeLiteralKeys noted isEmits text before = .ok (keys, before ++ scans) := by
  rw [typeLiteralKeys]
  generalize events : (if isEmits then Text.Reader.findAll emitSignature text else []) = signatures
  cases signatures with
  | nil =>
      obtain ⟨keys, run⟩ := entry_keys_noted found true
      exact ⟨keys, [⟨text, 0⟩], ⟨by simp, by simp, by simp⟩, run⟩
  | cons first others =>
      have always : isEmits = false → ([] : List Scan) ≠ [] := by
        rintro rfl
        cases events
      refine ⟨(first :: others).map fun found => String.ofList found.value, [],
        ⟨by simp, by simp, always⟩, fun before => ?_⟩
      rw [List.append_nil]
      rfl

theorem macro_keys_noted (found : findClosing text index = .ok (some stop))
    (present : text[index]? = some '<') (brace : (argumentOf text index stop).head? = some '\x7b')
    (isEmits : Bool) (call : Text.Reader.Found Unit) (place : call.stop = index + 1) :
    ∃ keys scans, ScansLiteral isEmits (argumentOf text index stop) scans ∧
      macroKeys noted text isEmits call [] = .ok (keys, ⟨text, index⟩ :: scans) := by
  obtain ⟨close, closed⟩ := argument_closes found brace
  obtain ⟨keys, scans, scanned, run⟩ := type_literal_noted closed isEmits
  refine ⟨keys, scans, scanned, ?_⟩
  have opener : call.stop - 1 = index := by omega
  have literal : typeArgumentKeys noted text isEmits (argumentOf text index stop) =
      typeLiteralKeys noted isEmits (argumentOf text index stop) := by
    rw [typeArgumentKeys, brace]
    exact if_pos (beq_self_eq_true _)
  rw [macroKeys, opener, present, if_pos (beq_self_eq_true _)]
  change (noted text index [] >>= _) = _
  rw [closing_noted found]
  change typeArgumentKeys noted text isEmits (argumentOf text index stop) [⟨text, index⟩] = _
  rw [literal]
  exact run [⟨text, index⟩]

end Arguments

/-- A group that a scan has found is found wherever its text stands; the groups that the scan met inside
it close inside it and are nested or apart; and the type literal that a macro's argument starts with is
found to close when it is scanned on its own. -/
theorem groups_local_laminar (text : Text) (index stop : Nat)
    (found : findClosing text index = .ok (some stop)) :
    (∀ front back, findClosing (front ++ Text.slice text index (stop + 1) ++ back) front.length =
      .ok (some (front.length + (stop - index)))) ∧
    (∀ position, OpensInside text index position →
      ∃ close, findClosing text position = .ok (some close) ∧
        index < position ∧ position < close ∧ close < stop) ∧
    (∀ one two close close', OpensInside text index one → OpensInside text index two →
      findClosing text one = .ok (some close) → findClosing text two = .ok (some close') →
      one < two → close < two ∨ close' < close) ∧
    (text[index]? = some '<' → (argumentOf text index stop).head? = some '\x7b' →
      (∃ close, findClosing (argumentOf text index stop) 0 = .ok (some close)) ∧
      ∀ isEmits (call : Text.Reader.Found Unit), call.stop = index + 1 →
        ∃ keys scans, ScansLiteral isEmits (argumentOf text index stop) scans ∧
          macroKeys noted text isEmits call [] = .ok (keys, ⟨text, index⟩ :: scans)) := by
  refine ⟨Literal.find_closing_anywhere found, fun position => Literal.inside_closes found, ?_, ?_⟩
  · intro one two close close' first second closed closed' ordered
    exact Literal.insides_apart found first second ordered closed closed'
  · intro present brace
    exact ⟨argument_closes found brace, macro_keys_noted found present brace⟩

/-- A type argument whose literal holds a quoted brace, an arrow, and two groups side by side. -/
theorem arrow_literal_nested :
    let text := "<\x7b a: ['\x7d'], b: (c) => d \x7d>()".toList
    findClosing text 0 = .ok (some 26) ∧ OpensInside text 0 1 ∧ OpensInside text 0 6 ∧
      (∃ close, findClosing text 6 = .ok (some close) ∧ 0 < 6 ∧ 6 < close ∧ close < 26) ∧
      (25 < 6 ∨ 10 < 25) ∧
      text[0]? = some '<' ∧ (argumentOf text 0 26).head? = some '\x7b' ∧
      ∃ close, findClosing (argumentOf text 0 26) 0 = .ok (some close) := by
  intro text
  have found : findClosing text 0 = .ok (some 26) := rfl
  have scanned : Literal.scanFrom true text (.first 0 '>') = some 26 := rfl
  have ready := Literal.first_ready 0 '>'
  have brace : OpensInside text 0 1 := by
    obtain ⟨stack, visited⟩ := Literal.reached_visited ready scanned ⟨0, rfl⟩ (by decide)
    exact ⟨'<', '>', stack, '\x7b', rfl, rfl, visited, rfl, rfl, rfl⟩
  have bracket : OpensInside text 0 6 := by
    obtain ⟨stack, visited⟩ := Literal.reached_visited ready scanned ⟨5, rfl⟩ (by decide)
    exact ⟨'<', '>', stack, '[', rfl, rfl, visited, rfl, rfl, rfl⟩
  obtain ⟨-, closes, apart, argument⟩ := groups_local_laminar text 0 26 found
  exact ⟨found, brace, bracket, closes 6 bracket, apart 1 6 25 10 brace bracket rfl rfl (by decide),
    rfl, rfl, (argument rfl rfl).1⟩

end PatternInspector.Component
