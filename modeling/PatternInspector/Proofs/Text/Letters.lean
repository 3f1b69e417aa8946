import PatternInspector.Proofs.Text.Parallel
import PatternInspector.Text.Case

/-!
Letter case. Two texts are `Recased` if they differ only in the case of ASCII letters: such texts have
the same lower case, the character classes cannot tell them apart, and two runs of a reader over them
stay side by side. No character but `>` itself has `>` for its lower case or for a letter of the other
case.
-/
namespace PatternInspector.Text

section Marks

theorem of_nat_mark {code : Nat} {mark : Char} (positive : 0 < mark.toNat)
    (same : Char.ofNat code = mark) : code = mark.toNat := by
  subst same
  by_cases valid : code.isValidChar
  · rw [Char.ofNat, dif_pos valid]
    rfl
  · rw [Char.ofNat, dif_neg valid] at positive
    exact absurd positive (by decide)

theorem map_single_apart {runs : List CaseRun} {mark : Char}
    (apart : ∀ run ∈ runs, run.last + run.delta < (mark.toNat : Int) ∨
      (mark.toNat : Int) < run.first + run.delta)
    (positive : 0 < mark.toNat) {c : Char} (mapped : mapSingle runs c = mark) : c = mark := by
  unfold mapSingle at mapped
  split at mapped
  next code found =>
    obtain ⟨run, member, shifted⟩ := List.exists_of_findSome?_eq_some found
    have same := of_nat_mark positive mapped
    unfold CaseRun.map? at shifted
    split at shifted
    next inside =>
      simp only [Bool.and_eq_true, decide_eq_true_eq] at inside
      have target := Option.some.inj shifted
      have away := apart run member
      omega
    next => cases shifted
  next => exact mapped

theorem lower_runs_angle : ∀ run ∈ lowerRuns, run.last + run.delta < ('>'.toNat : Int) ∨
    ('>'.toNat : Int) < run.first + run.delta := by
  decide +kernel

theorem lower_char_angle {c : Char} (mapped : '>' ∈ lowerChar c) : c = '>' := by
  unfold lowerChar at mapped
  cases sequence : mapSequence? lowerSequences c with
  | none =>
      have single : mapSingle lowerRuns c = '>' := by simpa [sequence, eq_comm] using mapped
      exact map_single_apart lower_runs_angle (by decide) single
  | some text =>
      obtain ⟨codes, listed, rfl⟩ := Option.map_eq_some_iff.mp sequence
      obtain ⟨earlier, later, split, -⟩ := List.lookup_eq_some_iff.mp listed
      have absent : ∀ entry ∈ lowerSequences, '>' ∉ entry.2.map Char.ofNat := by decide
      rw [sequence] at mapped
      exact absurd mapped (absent (c.toNat, codes) (by simp [split]))

theorem lower_simple_angle {c : Char} (mapped : lowerSimple c = '>') : c = '>' := by
  unfold lowerSimple at mapped
  cases full : lowerChar c with
  | nil => simpa [full] using mapped
  | cons d others =>
      obtain rfl : d = '>' := by simpa [full] using mapped
      exact lower_char_angle (by simp [full])

theorem twins_angle (low : Nat) : ((caseTwins.lookup low).getD []).contains '>'.toNat = false := by
  cases listed : caseTwins.lookup low with
  | none => rfl
  | some codes =>
      obtain ⟨earlier, later, split, -⟩ := List.lookup_eq_some_iff.mp listed
      have absent : ∀ entry ∈ caseTwins, entry.2.contains '>'.toNat = false := by decide
      exact absent (low, codes) (by simp [split])

theorem same_letter_angle {c : Char} (other : c ≠ '>') : sameLetter c '>' = false := by
  have still : lowerSimple '>' = '>' := by decide +kernel
  have low : ('>' == lowerSimple c) = false :=
    beq_eq_false_iff_ne.mpr fun mapped => other (lower_simple_angle mapped.symm)
  unfold sameLetter
  split
  next => exact beq_eq_false_iff_ne.mpr other.symm
  next =>
    dsimp only
    rw [still, low, twins_angle, Bool.or_false]

theorem lower_after_angle {before text : Text} (absent : '>' ∉ text) :
    '>' ∉ lowerAfter before text := by
  induction text generalizing before with
  | nil => simp [lowerAfter]
  | cons c text ih =>
      have other : c ≠ '>' := fun same => absent (by simp [same])
      have tail : '>' ∉ lowerAfter (c :: before) text := ih fun member => absent (by simp [member])
      have head : '>' ∉ lowerChar c := fun mapped => other (lower_char_angle mapped)
      unfold lowerAfter
      split
      next =>
        split <;> simp [tail]
      next => simp [head, tail]

end Marks

section Recasing

/-- The texts differ at most in the case of ASCII letters. -/
def Recased : Text → Text → Prop := List.Forall₂ fun c c' => c.toLower = c'.toLower

theorem recased_iff {text text' : Text} :
    Recased text text' ↔ text.map Char.toLower = text'.map Char.toLower := by
  rw [← List.forall₂_eq_eq_eq, List.forall₂_map_left_iff, List.forall₂_map_right_iff, Recased]

instance (text text' : Text) : Decidable (Recased text text') := decidable_of_iff _ recased_iff.symm

def upperLetters : Text := "ABCDEFGHIJKLMNOPQRSTUVWXYZ".toList

theorem upper_letter {c : Char} (changes : c.toLower ≠ c) : c ∈ upperLetters := by
  have codes : ∀ code < 91, 65 ≤ code → Char.ofNat code ∈ upperLetters := by decide +kernel
  have range : 'A'.val ≤ c.val ∧ c.val ≤ 'Z'.val := by
    by_contra outside
    exact changes (dif_neg outside)
  have bounds : 65 ≤ c.toNat ∧ c.toNat ≤ 90 := range
  rw [← Char.ofNat_toNat c]
  exact codes c.toNat (by omega) bounds.1

-- A function of characters that takes no notice of an upper case letter depends on nothing but the
-- lower case.
theorem image_recased {β : Type} {f : Char → β} (lowered : ∀ c ∈ upperLetters, f c.toLower = f c)
    {c c' : Char} (same : c.toLower = c'.toLower) : f c = f c' := by
  have image : ∀ c : Char, f c = f c.toLower := by
    intro c
    by_cases changes : c.toLower = c
    · rw [changes]
    · exact (lowered c (upper_letter changes)).symm
  rw [image c, image c', same]

def Caseless (accepts : Char → Bool) : Prop :=
  ∀ c c' : Char, c.toLower = c'.toLower → accepts c = accepts c'

theorem caseless_of_letters {accepts : Char → Bool}
    (lowered : ∀ c ∈ upperLetters, accepts c.toLower = accepts c) : Caseless accepts :=
  fun _ _ same => image_recased lowered same

theorem caseless_blank : Caseless isBlank := caseless_of_letters (each_of_all (by decide +kernel))

theorem letter_tables : ∀ c ∈ upperLetters, lowerChar c = [c.toLower] ∧
    lowerChar c.toLower = [c.toLower] ∧ upperChar c.toLower = [c] ∧ c ≠ c.toLower :=
  each_of_all (by decide +kernel)

theorem lower_char_recased {c c' : Char} (same : c.toLower = c'.toLower) :
    lowerChar c = lowerChar c' := by
  refine image_recased (fun c member => ?_) same
  obtain ⟨upper, lower, -⟩ := letter_tables c member
  rw [upper, lower]

theorem caseless_same_letter (expected : Char) : Caseless (sameLetter expected) := by
  refine caseless_of_letters fun c member => ?_
  obtain ⟨upper, lower, raised, differ⟩ := letter_tables c member
  have simple : lowerSimple c.toLower = lowerSimple c := by
    rw [lowerSimple, lowerSimple, upper, lower]
    rfl
  unfold sameLetter
  split
  next fixed =>
    -- A pattern character without case is no letter.
    simp only [Bool.and_eq_true, beq_iff_eq] at fixed
    have apart : c ≠ expected := by
      rintro rfl
      exact differ (List.singleton_inj.mp (upper.symm.trans fixed.1)).symm
    have apart' : c.toLower ≠ expected := by
      rintro rfl
      exact differ (List.singleton_inj.mp (raised.symm.trans fixed.2))
    rw [beq_eq_false_iff_ne.mpr apart, beq_eq_false_iff_ne.mpr apart']
  next => rw [simple]

variable {text text' : Text}

theorem recased_head (recased : Recased text text') {accepts : Char → Bool}
    (caseless : Caseless accepts) : text.head?.any accepts = text'.head?.any accepts := by
  cases recased with
  | nil => rfl
  | cons same _ => exact caseless _ _ same

theorem newlines_recased (recased : Recased text text') : newlines text = newlines text' := by
  have caseless : Caseless (· == '\n') := caseless_of_letters (each_of_all (by decide))
  induction recased with
  | nil => rfl
  | @cons c c' _ _ same tail ih =>
      have here : (c == '\n') = (c' == '\n') := caseless c c' same
      unfold newlines at ih ⊢
      rw [List.count_cons, List.count_cons, ih, here]

theorem case_ignorable_recased {c c' : Char} (same : c.toLower = c'.toLower) :
    isCaseIgnorable c = isCaseIgnorable c' := by
  refine image_recased (fun c member => ?_) same
  have ranges : ∀ c ∈ upperLetters, inRanges [(65, 90), (97, 122)] c = true ∧
      inRanges [(65, 90), (97, 122)] c.toLower = true := each_of_all (by decide)
  have apart : ∀ a ∈ [(65, 90), (97, 122)], ∀ b ∈ caseIgnorableRanges, a.2 < b.1 ∨ b.2 < a.1 := by
    decide +kernel
  obtain ⟨upper, lower⟩ := ranges c member
  rw [isCaseIgnorable, isCaseIgnorable, ranges_disjoint apart upper, ranges_disjoint apart lower]

theorem touches_cased_cons (c : Char) (rest : Text) :
    touchesCased (c :: rest) = if isCaseIgnorable c then touchesCased rest else isCased c := by
  unfold touchesCased
  cases ignorable : isCaseIgnorable c <;> simp [ignorable]

theorem touches_cased_recased (recased : Recased text text') :
    touchesCased text = touchesCased text' := by
  induction recased with
  | nil => rfl
  | cons same tail ih =>
      rw [touches_cased_cons, touches_cased_cons, case_ignorable_recased same, ih,
        image_recased (f := isCased) (each_of_all (by decide +kernel)) same]

theorem lower_after_recased {before before' : Text} (earlier : Recased before before')
    (recased : Recased text text') : lowerAfter before text = lowerAfter before' text' := by
  induction recased generalizing before before' with
  | nil => rfl
  | @cons c c' text text' same tail ih =>
      have sigma : (c == capitalSigma) = (c' == capitalSigma) :=
        image_recased (f := (· == capitalSigma)) (each_of_all (by decide +kernel)) same
      simp only [lowerAfter]
      rw [sigma, lower_char_recased same, touches_cased_recased earlier, touches_cased_recased tail,
        ih (.cons same earlier)]

theorem lower_recased (recased : Recased text text') : lower text = lower text' :=
  lower_after_recased .nil recased

theorem is_prefix_recased {needle : Text} (plain : ∀ c ∈ needle, Caseless (· == c))
    (recased : Recased text text') : needle.isPrefixOf text = needle.isPrefixOf text' := by
  induction needle generalizing text text' with
  | nil => rfl
  | cons d needle ih =>
      cases recased with
      | nil => rfl
      | @cons c c' text text' same tail =>
          have here : (c == d) = (c' == d) := plain d (by simp) c c' same
          rw [List.isPrefixOf, List.isPrefixOf, ih (fun e member => plain e (by simp [member])) tail,
            Bool.beq_comm, here, Bool.beq_comm]

theorem find_recased {needle : Text} (plain : ∀ c ∈ needle, Caseless (· == c))
    (recased : Recased text text') : find? needle text = find? needle text' := by
  induction recased with
  | nil => rfl
  | cons same tail ih =>
      rw [find?, find?, is_prefix_recased plain (.cons same tail), ih]

end Recasing

section Runs

open Reader

def Alike (cursor cursor' : Cursor) : Prop :=
  cursor.position = cursor'.position ∧ Recased cursor.rest cursor'.rest

theorem alike_next {cursor cursor' : Cursor} (alike : Alike cursor cursor') :
    Alike cursor.next cursor'.next := by
  obtain ⟨position, before, rest⟩ := cursor
  obtain ⟨position', before', rest'⟩ := cursor'
  obtain ⟨same, recased⟩ := alike
  dsimp only at same recased
  subst same
  cases recased with
  | nil => exact ⟨rfl, .nil⟩
  | cons _ tail => exact ⟨rfl, tail⟩

theorem steps_alike {accepts : Char → Bool} (caseless : Caseless accepts) :
    Steps accepts Alike Alike :=
  fun _ _ alike => ⟨recased_head alike.2 caseless, fun _ => alike_next alike⟩

theorem alike_passed {cursor cursor' place place' : Cursor} (alike : Alike cursor cursor')
    (alike' : Alike place place') :
    Recased (cursor.rest.take (place.position - cursor.position))
      (cursor'.rest.take (place'.position - cursor'.position)) := by
  rw [alike.1, alike'.1]
  exact List.forall₂_take _ alike.2

theorem search_from_alike {α : Type} {reader : Reader α}
    (parallel : Parallel Alike Alike Eq reader reader) {position : Nat}
    {before before' : Option Char} {text text' : Text} (recased : Recased text text') :
    (searchFrom reader position before text).map (·.1) =
      (searchFrom reader position before' text').map (·.1) := by
  induction recased generalizing position before before' with
  | nil =>
      have here : Alike ⟨position, before, []⟩ ⟨position, before', []⟩ := ⟨rfl, .nil⟩
      rcases parallel_first parallel here with
        ⟨none, none'⟩ | ⟨way, way', first, first', same, stop, -⟩
      · simp [searchFrom, none, none']
      · simp [searchFrom, first, first', same, stop]
  | @cons c c' text text' same tail ih =>
      have here : Alike ⟨position, before, c :: text⟩ ⟨position, before', c' :: text'⟩ :=
        ⟨rfl, .cons same tail⟩
      rw [searchFrom, searchFrom]
      rcases parallel_first parallel here with
        ⟨none, none'⟩ | ⟨way, way', first, first', same, stop, -⟩
      · rw [none, none']
        exact ih
      · rw [first, first']
        simp [same, stop]

theorem search_alike {α : Type} {reader : Reader α}
    (parallel : Parallel Alike Alike Eq reader reader) {text text' : Text}
    (recased : Recased text text') : search reader text = search reader text' :=
  search_from_alike parallel recased

end Runs

end PatternInspector.Text
