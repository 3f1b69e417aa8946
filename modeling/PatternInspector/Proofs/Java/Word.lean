import Mathlib.Data.List.DropRight
import PatternInspector.Proofs.Java.TypeExpression

/-!
How words and marks of Java are read. A word ends where no part of a word follows. A mark is missed
where, behind blanks, another character comes next.
-/
namespace PatternInspector.Java

open PatternInspector.Syntax.Parser
open PatternInspector.Text (Avoids avoids_cons)

variable {c : Char} {marks fewer : List Char} {text word rest : Text} {name : String}

section Characters

theorem word_start_dark (start : Grammar.isWordStart c = true) : Grammar.isBlank c = false := by
  refine Bool.eq_false_iff.mpr fun blank => ?_
  have small : c.toNat = 32 ∨ 9 ≤ c.toNat ∧ c.toNat ≤ 13 := by
    simpa [Grammar.isBlank, ← Char.toNat_inj] using blank
  have ascii : c.toNat < 128 := by omega
  simp only [Grammar.isWordStart, ascii, if_true, Text.isLetter, Text.isUpperLetter,
    Text.isLowerLetter, Bool.or_eq_true, Bool.and_eq_true, decide_eq_true_eq, beq_iff_eq,
    ← Char.toNat_inj, Char.le_def, UInt32.le_iff_toNat_le] at start
  simp at start
  omega

theorem word_start_no_mark (start : Grammar.isWordStart c = true)
    (other : ∀ mark ∈ marks, Grammar.isWordStart mark = false) : c ∉ marks := by
  intro member
  rw [other c member] at start
  cases start

end Characters

section Following

theorem next_avoids_cons (dark : Grammar.isBlank c = false) (other : c ∉ marks) (text : Text) :
    NextAvoids marks (c :: text) := by
  rw [NextAvoids, List.dropWhile_cons_of_neg (by simp [dark])]
  exact avoids_cons (by simpa using other) text

theorem next_avoids_blank (blank : Grammar.isBlank c = true) (next : NextAvoids marks text) :
    NextAvoids marks (c :: text) := by
  rwa [NextAvoids, List.dropWhile_cons_of_pos blank]

theorem next_avoids_token (next : NextAvoids marks text) :
    NextAvoids marks (text.dropWhile Grammar.isBlank) := by
  rwa [NextAvoids, List.dropWhile_idempotent]

theorem next_avoids_fewer (next : NextAvoids marks text) (less : fewer ⊆ marks) :
    NextAvoids fewer text := by
  intro d head
  have other : d ∉ marks := by simpa using next d head
  simpa using fun member => other (less member)

theorem next_token (next : NextAvoids marks text) (slash : '/' ∈ marks) :
    Avoids Grammar.style.startsTrivia (text.dropWhile Grammar.isBlank) := by
  intro d head
  have dark : Grammar.isBlank d = false := by
    have first := List.head?_dropWhile_not Grammar.isBlank text
    simpa [head] using first
  have noSlash : ¬ d = '/' := by
    rintro rfl
    have found := next '/' head
    simp [slash] at found
  simp [Syntax.Style.startsTrivia, Grammar.style, dark, noSlash]

end Following

section Words

theorem word_split (whole : Grammar.wordAt word = word) (nonempty : word ≠ []) :
    ∃ c rest, word = c :: rest ∧ Grammar.isWordStart c = true ∧
      ∀ d ∈ rest, Grammar.isWordPart d = true := by
  cases word with
  | nil => exact absurd rfl nonempty
  | cons c rest =>
      rw [Grammar.wordAt] at whole
      split at whole
      next start =>
        exact ⟨c, rest, rfl, start, List.takeWhile_eq_self_iff.mp (List.cons.inj whole).2⟩
      next => cases whole

theorem word_at_append (whole : Grammar.wordAt word = word) (nonempty : word ≠ [])
    (stop : Avoids Grammar.isWordPart rest) : Grammar.wordAt (word ++ rest) = word := by
  obtain ⟨c, letters, rfl, start, parts⟩ := word_split whole nonempty
  have ended : rest.takeWhile Grammar.isWordPart = [] := by
    cases rest with
    | nil => rfl
    | cons d rest => exact List.takeWhile_cons_of_neg (by simp [stop d rfl])
  rw [List.cons_append, Grammar.wordAt, if_pos start, List.takeWhile_append_of_pos parts, ended,
    List.append_nil]

theorem word_token (whole : Grammar.wordAt word = word) (nonempty : word ≠ []) (rest : Text) :
    Avoids Grammar.style.startsTrivia (word ++ rest) := by
  obtain ⟨c, letters, rfl, start, -⟩ := word_split whole nonempty
  have noSlash : ¬ c = '/' := by
    rintro rfl
    exact absurd start (by decide)
  exact avoids_cons (by simp [Syntax.Style.startsTrivia, Grammar.style, word_start_dark start,
    noSlash]) _

theorem keyword_accepts (name : String) (letters : name.toList = word) (whole : Grammar.wordAt word = word)
    (nonempty : word ≠ []) (stop : Avoids Grammar.isWordPart rest) :
    Accepts Grammar.style (Grammar.keyword name) word rest
      (Single fun node => Covers name false word node ∧ node.children = []) := by
  refine accepts_leaf (word_token whole nonempty rest) ?_
  rw [Grammar.keywordLength?, word_at_append whole nonempty stop, ← letters, String.length_toList]
  simp

theorem keyword_rejects (token : Avoids Grammar.style.startsTrivia text)
    (other : Grammar.wordAt text ≠ name.toList) :
    Rejects Grammar.style (Grammar.keyword name) text := by
  refine rejects_leaf token ?_
  rw [Grammar.keywordLength?, if_neg (by simpa using other)]

theorem identifier_accepts (identifier : Identifier) (kind : String) {rejected : List String}
    (free : String.ofList identifier.text ∉ rejected) (stop : Avoids Grammar.isWordPart rest) :
    Accepts Grammar.style (Grammar.wordOf kind rejected) identifier.text rest
      (Single fun node => Covers kind true identifier.text node ∧ node.children = []) := by
  have whole := identifier.word
  have nonempty := identifier.nonempty
  refine accepts_leaf (word_token whole nonempty rest) ?_
  obtain ⟨c, letters, same, -⟩ := word_split whole nonempty
  rw [Grammar.wordLength?, word_at_append whole nonempty stop, same]
  rw [same] at free
  simp only [List.contains_eq_mem, free, decide_false, Bool.false_eq_true, if_false]

end Words

section Marks

theorem mark_accepts (name : String) (letters : name.toList = [c])
    (dark : Grammar.style.startsTrivia c = false) (rest : Text) :
    Accepts Grammar.style (mark name) [c] rest
      (Single fun node => Covers name false [c] node ∧ node.children = []) := by
  refine accepts_leaf (avoids_cons dark rest) ?_
  have length : name.length = 1 := by rw [← String.length_toList, letters]; rfl
  simp [lengthIfStarts, letters, length]

theorem mark_rejects (name : String) (letters : name.toList = [c]) (next : NextAvoids ['/', c] text) :
    Rejects Grammar.style (mark name) text := by
  refine rejects_gap loose_leaf (rejects_leaf (next_token next (by simp)) ?_)
  have other : ¬ [c] <+: text.dropWhile Grammar.isBlank := by
    rintro ⟨rest, start⟩
    simpa using next c (by rw [← start]; rfl)
  simpa [lengthIfStarts, letters, Grammar.style] using other

end Marks

end PatternInspector.Java
