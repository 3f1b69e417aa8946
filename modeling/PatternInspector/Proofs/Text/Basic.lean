import Mathlib.Data.List.TakeWhile
import PatternInspector.Text.Basic

/-!
Facts about texts and their character classes that the scanners' proofs share.
-/
namespace PatternInspector.Text

section Ends

/-- The last character of a text, or the one before an empty text. -/
def lastAfter : Char → Text → Char
  | before, [] => before
  | _, c :: rest => lastAfter c rest

@[simp] theorem last_after_nil (before : Char) : lastAfter before [] = before := rfl

@[simp] theorem last_after_cons (before c : Char) (rest : Text) :
    lastAfter before (c :: rest) = lastAfter c rest := rfl

@[simp] theorem last_after_append (before : Char) (left right : Text) :
    lastAfter before (left ++ right) = lastAfter (lastAfter before left) right := by
  induction left generalizing before with
  | nil => rfl
  | cons c left ih => exact ih c

def Avoids (accepts : Char → Bool) (text : Text) : Prop :=
  ∀ c, text.head? = some c → accepts c = false

theorem avoids_nil (accepts : Char → Bool) : Avoids accepts [] := by
  intro c head
  simp at head

theorem avoids_cons {accepts : Char → Bool} {c : Char} (refused : accepts c = false)
    (text : Text) : Avoids accepts (c :: text) := by
  rintro d ⟨⟩
  exact refused

theorem avoids_append {accepts : Char → Bool} {left right : Text} (first : Avoids accepts left)
    (second : left = [] → Avoids accepts right) : Avoids accepts (left ++ right) := by
  cases left with
  | nil => exact second rfl
  | cons c left => exact avoids_cons (first c rfl) _

end Ends

section Classes

theorem ne_of_class {accepts : Char → Bool} {c d : Char} (accepted : accepts c = true)
    (refused : accepts d = false) : c ≠ d := by
  rintro rfl
  rw [accepted] at refused
  exact absurd refused (by decide)

-- A check of all characters of a text, run character by character.
theorem each_of_all {holds : Char → Prop} [DecidablePred holds] {text : Text}
    (checked : text.all (fun c => decide (holds c)) = true) : ∀ c ∈ text, holds c :=
  fun c member => of_decide_eq_true (List.all_eq_true.mp checked c member)

theorem ranges_disjoint {left right : List (Nat × Nat)}
    (apart : ∀ a ∈ left, ∀ b ∈ right, a.2 < b.1 ∨ b.2 < a.1) {c : Char}
    (inside : inRanges left c = true) : inRanges right c = false := by
  rw [inRanges, List.any_eq_true] at inside
  obtain ⟨a, present, within⟩ := inside
  rw [inRanges, List.any_eq_false]
  intro b member within'
  simp only [Bool.and_eq_true, decide_eq_true_eq] at within within'
  rcases apart a present b member with less | less <;> omega

theorem ascii_word_ranges {c : Char} (word : (isLetter c || isDigit c || c == '_') = true) :
    inRanges [(48, 57), (65, 90), (95, 95), (97, 122)] c = true := by
  simp only [isLetter, isUpperLetter, isLowerLetter, isDigit, Bool.or_eq_true, Bool.and_eq_true,
    decide_eq_true_eq, beq_iff_eq, Char.le_def, UInt32.le_iff_toNat_le] at word
  simp only [inRanges, List.any_cons, List.any_nil, Bool.or_false, Bool.or_eq_true,
    Bool.and_eq_true, decide_eq_true_eq]
  rcases word with ((upper | lower) | digit) | rfl
  · exact Or.inr (Or.inl upper)
  · exact Or.inr (Or.inr (Or.inr lower))
  · exact Or.inl digit
  · decide

theorem word_not_blank {c : Char} (word : isWord c = true) : isBlank c = false := by
  unfold isWord at word
  split at word
  next => exact ranges_disjoint (by decide) (ascii_word_ranges word)
  next => exact ranges_disjoint (by decide +kernel) word

theorem name_part_not_blank {c : Char} (part : isNamePart c = true) : isBlank c = false := by
  simp only [isNamePart, Bool.or_eq_true, beq_iff_eq] at part
  rcases part with word | rfl
  · exact word_not_blank word
  · decide

theorem name_start_part {c : Char} (start : isNameStart c = true) : isNamePart c = true := by
  simp only [isNameStart, Bool.or_eq_true, beq_iff_eq] at start
  rcases start with (letter | rfl) | rfl
  · have word : (isLetter c || isDigit c || c == '_') = true := by simp [letter]
    have range := ascii_word_ranges word
    have ascii : c.toNat < 128 := by
      simp only [inRanges, List.any_cons, List.any_nil, Bool.or_false, Bool.or_eq_true,
        Bool.and_eq_true, decide_eq_true_eq] at range
      omega
    simp [isNamePart, isWord, ascii, word]
  · decide
  · decide

end Classes

section Trimming

variable {blanks text : Text}

theorem drop_blanks_append (white : ∀ c ∈ blanks, isBlank c = true) (text : Text) :
    dropBlanks (blanks ++ text) = dropBlanks text :=
  List.dropWhile_append_of_pos white

theorem drop_blanks_avoids (avoids : Avoids isBlank text) : dropBlanks text = text := by
  cases text with
  | nil => rfl
  | cons c text => simp [dropBlanks, avoids c rfl]

theorem drop_blanks_end_append (white : ∀ c ∈ blanks, isBlank c = true) (text : Text) :
    dropBlanksEnd (text ++ blanks) = dropBlanksEnd text := by
  have white' : ∀ c ∈ blanks.reverse, isBlank c = true := by simpa using white
  rw [dropBlanksEnd, List.reverse_append, List.dropWhile_append_of_pos white', dropBlanksEnd]

theorem drop_blanks_end_split (text : Text) :
    ∃ trailing, (∀ c ∈ trailing, isBlank c = true) ∧ dropBlanksEnd text ++ trailing = text := by
  refine ⟨(text.reverse.takeWhile isBlank).reverse, ?_, ?_⟩
  · intro c member
    exact List.mem_takeWhile_imp (List.mem_reverse.mp member)
  · rw [dropBlanksEnd, ← List.reverse_append, List.takeWhile_append_dropWhile, List.reverse_reverse]

theorem drop_blanks_end_mark {c : Char} (mark : isBlank c = false) (left right : Text) :
    dropBlanksEnd (left ++ c :: right) = left ++ c :: dropBlanksEnd right := by
  have kept : (c :: left.reverse).dropWhile isBlank = c :: left.reverse := by simp [mark]
  have split : (left ++ c :: right).reverse = right.reverse ++ c :: left.reverse := by simp
  rw [dropBlanksEnd, split, List.dropWhile_append, kept]
  split <;> simp_all [dropBlanksEnd]

theorem drop_blanks_end_avoids (avoids : Avoids isBlank text.reverse) :
    dropBlanksEnd text = text := by
  have kept : text.reverse.dropWhile isBlank = text.reverse := drop_blanks_avoids avoids
  rw [dropBlanksEnd, kept, List.reverse_reverse]

theorem drop_blanks_end_kept (nonempty : text ≠ []) (dark : Avoids isBlank text.reverse)
    (left : Text) : dropBlanksEnd (left ++ text) = left ++ text := by
  apply drop_blanks_end_avoids
  rw [List.reverse_append]
  exact avoids_append dark fun none => absurd (List.reverse_eq_nil_iff.mp none) nonempty

theorem dropped_avoids (text : Text) : Avoids isBlank (dropBlanks text) := by
  intro c head
  have refused := List.head?_dropWhile_not isBlank text
  rw [dropBlanks] at head
  simpa [head] using refused

theorem avoids_of_drop_blanks (kept : text.length ≤ (dropBlanks text).length) :
    Avoids isBlank text := by
  intro c head
  by_contra blank
  cases text with
  | nil => simp at head
  | cons d rest =>
      obtain rfl : d = c := by simpa using head
      have shorter := List.length_dropWhile_le isBlank rest
      simp only [dropBlanks, Bool.not_eq_false] at kept blank
      rw [List.dropWhile_cons_of_pos blank, List.length_cons] at kept
      omega

theorem length_drop_blanks_end (text : Text) :
    (dropBlanksEnd text).length = (dropBlanks text.reverse).length :=
  List.length_reverse

theorem trimmed_avoids (trimmed : strip text = text) :
    Avoids isBlank text ∧ Avoids isBlank text.reverse := by
  have size : text.length ≤ (dropBlanks text).length := calc
    text.length = (dropBlanksEnd (dropBlanks text)).length := congrArg List.length trimmed.symm
    _ = (dropBlanks (dropBlanks text).reverse).length := length_drop_blanks_end _
    _ ≤ (dropBlanks text).reverse.length := List.length_dropWhile_le _ _
    _ = (dropBlanks text).length := List.length_reverse
  have first := avoids_of_drop_blanks size
  have last : dropBlanksEnd text = text := by rwa [strip, drop_blanks_avoids first] at trimmed
  refine ⟨first, avoids_of_drop_blanks ?_⟩
  rw [← length_drop_blanks_end, last, List.length_reverse]

theorem strip_surrounded {left right : Text} (white : ∀ c ∈ left, isBlank c = true)
    (white' : ∀ c ∈ right, isBlank c = true) (trimmed : strip text = text) :
    strip (left ++ (text ++ right)) = text := by
  rw [strip, drop_blanks_append white]
  cases text with
  | nil =>
      have none : dropBlanks right = [] := List.dropWhile_eq_nil_iff.mpr white'
      rw [List.nil_append, none]
      rfl
  | cons c text =>
      obtain ⟨first, last⟩ := trimmed_avoids trimmed
      rw [drop_blanks_avoids (avoids_append first (by simp)), drop_blanks_end_append white',
        drop_blanks_end_avoids last]

theorem strip_split (text : Text) : ∃ left right, (∀ c ∈ left, isBlank c = true) ∧
    (∀ c ∈ right, isBlank c = true) ∧ text = left ++ (strip text ++ right) := by
  obtain ⟨right, white, split⟩ := drop_blanks_end_split (dropBlanks text)
  refine ⟨text.takeWhile isBlank, right, fun c => List.mem_takeWhile_imp, white, ?_⟩
  rw [strip, split, dropBlanks, List.takeWhile_append_dropWhile]

theorem strip_eq_iff {inner : Text} (trimmed : strip inner = inner) :
    strip text = inner ↔ ∃ left right, (∀ c ∈ left, isBlank c = true) ∧
      (∀ c ∈ right, isBlank c = true) ∧ text = left ++ (inner ++ right) := by
  constructor
  · rintro rfl
    exact strip_split text
  · rintro ⟨left, right, white, white', rfl⟩
    exact strip_surrounded white white' trimmed

end Trimming

section Positions

variable {needle text : Text}

theorem newlines_append (left right : Text) : newlines (left ++ right) = newlines left + newlines right :=
  List.count_append

theorem newlines_take_le (text : Text) (index : Nat) : newlines (text.take index) ≤ newlines text :=
  (List.take_sublist index text).count_le _

theorem find_sound {index : Nat} (found : find? needle text = some index) :
    needle <+: text.drop index := by
  induction text generalizing index with
  | nil =>
      cases needle with
      | nil => exact List.nil_prefix
      | cons d needle => simp [find?] at found
  | cons d text ih =>
      rw [find?] at found
      split at found
      next starts =>
        obtain rfl := Option.some.inj found
        exact List.isPrefixOf_iff_prefix.mp starts
      next =>
        obtain ⟨inner, later, rfl⟩ := Option.map_eq_some_iff.mp found
        exact ih later

end Positions

end PatternInspector.Text
