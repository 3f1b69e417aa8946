import PatternInspector.Proofs.Component.Scan
import PatternInspector.Proofs.Literal.Nesting

/-!
Scans are asked for where they can be answered. A scan faults exactly if no bracket opens at its
position; every scan that an analysis asks for starts at one, and neither the turns of such a scan nor
the walk over the literal that it closes read anything outside the text or below the open groups.
-/
namespace PatternInspector.Component

open PatternInspector.Literal (ScanFault Visits Reaches findClosing skipTrivia triviaLength
  startsComment objectEntries closerOf? turn?)

section Literals

variable {text : Text} {index close : Nat}

def openers : List Char := ['\x7b', '[', '(', '<']

theorem opener_of_closer {opener closer : Char} (pair : closerOf? opener = some closer) :
    opener ∈ openers := by
  rcases Literal.closer_pairs pair with ⟨rfl, -⟩ | ⟨rfl, -⟩ | ⟨rfl, -⟩ | ⟨rfl, -⟩ <;> decide

theorem find_closing_ok_iff (text : Text) (index : Nat) :
    (∃ found, findClosing text index = .ok found) ↔ ∃ c ∈ openers, text[index]? = some c := by
  constructor
  · rintro ⟨found, closed⟩
    obtain ⟨c, closer, present, pair⟩ := Literal.opener_of_found closed
    exact ⟨c, opener_of_closer pair, present⟩
  · rintro ⟨c, opening, present⟩
    obtain ⟨closer, pair⟩ := Literal.opener_pair opening
    exact ⟨_, Literal.find_closing_first present pair⟩

theorem skip_trivia_inside (inside : index < text.length) :
    skipTrivia text index = .ok (index + triviaLength (text.drop index)) :=
  if_pos inside

theorem comment_skipped {held : Text} (comment : startsComment held = true) :
    skipTrivia held 0 = .ok (triviaLength held) := by
  cases held with
  | nil => cases comment
  | cons c rest => rw [skip_trivia_inside (Nat.succ_pos _), List.drop_zero, Nat.zero_add]

/-- The walk from the opener comes to the closer, and no trivia on its way runs over the closer. -/
structure WalksTo (text : Text) (index close : Nat) : Prop where
  inside : close < text.length
  reached : Reaches text (index + 1) close
  skips : ∀ position, Reaches text (index + 1) position → position < close →
    ∃ after, skipTrivia text position = .ok after ∧ after ≤ close

theorem walks_to_close (found : findClosing text index = .ok (some close)) :
    WalksTo text index close := by
  obtain ⟨opener, closer, present, pair⟩ := Literal.opener_of_found found
  have inside : close < text.length := by
    obtain ⟨inner, closer, after, behind, rfl, -⟩ := Literal.group_of_found found present
    have sizes := congrArg List.length behind
    simp only [List.length_drop, List.length_cons, List.length_append] at sizes
    omega
  have ready := Literal.first_ready index closer
  rw [Literal.find_closing_first present pair, Except.ok.injEq] at found
  refine ⟨inside, ?_, ?_⟩
  · obtain ⟨stand, visited, ended⟩ := Literal.turns_end _ ready (Nat.le_refl _)
    obtain ⟨ready', same, walked⟩ := Literal.visits_keep ready visited
    rcases Literal.turn_cases (opener == '<') text ready' with ⟨next, goes⟩ | stops
    · cases goes.turned.symm.trans ended
    · rw [stops.place close (same.trans found)]
      exact walked
  · intro position walked before
    obtain ⟨stack, visited⟩ := Literal.reached_visited ready found walked (Nat.le_of_lt before)
    obtain ⟨ready', same, -⟩ := Literal.visits_keep ready visited
    refine ⟨_, skip_trivia_inside (Nat.lt_trans before inside), ?_⟩
    rcases Literal.turn_cases (opener == '<') text ready' with ⟨next, goes⟩ | stops
    · have ahead := Literal.scan_ahead goes.ready (goes.same.trans (same.trans found))
      rw [goes.steps, Literal.stride] at ahead
      dsimp only at ahead
      omega
    · exact absurd (stops.place close (same.trans found)) (Nat.ne_of_gt before)

end Literals

section Scans

/-- A scan that can be answered: each turn finds what it reads, an open group among it, the last turn
has the answer, and the entries of the literal can be cut. -/
structure SafeFrom (text : Text) (index : Nat) (opener closer : Char) : Prop where
  present : text[index]? = some opener
  pair : closerOf? opener = some closer
  turns : ∀ stand, Visits (opener == '<') text (.first index closer) stand →
    stand.stack ≠ [] ∧ (∃ turn, turn? (opener == '<') text stand = some turn) ∧
      (stand.index < text.length → ∃ after, skipTrivia text stand.index = .ok after)
  answers : ∃ found stand, findClosing text index = .ok found ∧
    Visits (opener == '<') text (.first index closer) stand ∧
    turn? (opener == '<') text stand = some (.ended found)
  entries : ∀ typeLiteral, ∃ entries, objectEntries text index typeLiteral = .ok entries
  walks : ∀ close, findClosing text index = .ok (some close) → WalksTo text index close

def Scan.Safe (scan : Scan) : Prop :=
  ∃ opener ∈ openers, ∃ closer, SafeFrom scan.text scan.index opener closer

theorem opens_safe {scan : Scan} (opens : scan.OpensGroup) : scan.Safe := by
  obtain ⟨text, index⟩ := scan
  obtain ⟨opener, present, opening⟩ := opens
  obtain ⟨closer, pair⟩ := Option.isSome_iff_exists.mp opening
  have ready := Literal.first_ready index closer
  refine ⟨opener, opener_of_closer pair, closer, present, pair, ?_, ?_, ?_, fun _ => walks_to_close⟩
  · intro stand visited
    obtain ⟨ready', -, -⟩ := Literal.visits_keep ready visited
    refine ⟨ready'.opened, ?_, fun inside => ⟨_, skip_trivia_inside inside⟩⟩
    rcases Literal.turn_cases (opener == '<') text ready' with ⟨next, goes⟩ | stops
    · exact ⟨_, goes.turned⟩
    · exact ⟨_, stops.turned⟩
  · obtain ⟨stand, visited, ended⟩ := Literal.turns_end _ ready (Nat.le_refl _)
    exact ⟨_, stand, Literal.find_closing_first present pair, visited, ended⟩
  · intro typeLiteral
    obtain ⟨entries, scans, given, -⟩ := entries_follow typeLiteral present opening
    exact ⟨entries, given⟩

theorem follows_safe {α : Type} {watched : Noting α} {plain : Except ScanFault α}
    (follows : Follows watched plain) :
    ∃ value scans, plain = .ok value ∧ watched [] = .ok (value, scans) ∧
      ∀ scan ∈ scans, scan.Safe := by
  obtain ⟨value, scans, given, run, opens⟩ := follows
  exact ⟨value, scans, given, run [], fun scan member => opens_safe (opens scan member)⟩

end Scans

/-- Every component has a report and every descriptor an outline, and all the scans on the way to them
are safe. A scan faults exactly where no bracket opens, and a comment that is dropped from the front of
a member is measured at a position of the text. -/
theorem scans_always_safe :
    (∀ (rules : Rules) (code : Text) (filename : String), ∃ report scans,
      validate rules code filename = .ok report ∧
      validateBy noted rules code filename [] = .ok (report, scans) ∧ ∀ scan ∈ scans, scan.Safe) ∧
    (∀ descriptor : Descriptor, ∃ outline scans, extract descriptor = .ok outline ∧
      extractBy noted descriptor [] = .ok (outline, scans) ∧ ∀ scan ∈ scans, scan.Safe) ∧
    (∀ text index, (∃ found, findClosing text index = .ok found) ↔
      ∃ c ∈ openers, text[index]? = some c) ∧
    ∀ held, startsComment held = true → skipTrivia held 0 = .ok (triviaLength held) := by
  refine ⟨fun rules code filename => ?_, fun descriptor => ?_, find_closing_ok_iff, ?_⟩
  · exact follows_safe (validate_follows rules code filename)
  · exact follows_safe (extract_follows descriptor)
  · intro held comment
    exact comment_skipped comment

-- The type argument and its literal, and the parameters and the body of a function.
example :
    let code := "<script setup>defineProps<\x7b a: 1 \x7d>(); function f() \x7b \x7d</script>".toList
    ((validateBy noted {} code "A.vue" []).toOption.map fun run => run.2.map (·.index)) =
      some [11, 0, 35, 38] := by
  decide +kernel

end PatternInspector.Component
