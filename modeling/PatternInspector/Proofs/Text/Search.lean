import PatternInspector.Proofs.Text.Ways

/-!
Searches for a reader. Text in which the reader fails at every place is passed over, and a search
stops at the first place where the reader reads; a repeated search goes on behind the match. Where
matches cannot overlap, it finds all of them, in ascending order.
-/
namespace PatternInspector.Text

namespace Reader

section Quiet

variable {α : Type} {reader : Reader α}

/-- The reader fails at every place of `passed` when `rest` follows. -/
def Quiet (reader : Reader α) : Text → Text → Prop
  | [], _ => True
  | c :: passed, rest => Fails reader (c :: (passed ++ rest)) ∧ Quiet reader passed rest

theorem quiet_of_class {accepts : Char → Bool}
    (starts : ∀ text, Avoids accepts text → Fails reader text) {passed : Text}
    (refused : ∀ c ∈ passed, accepts c = false) (rest : Text) : Quiet reader passed rest := by
  induction passed with
  | nil => trivial
  | cons c passed ih =>
      exact ⟨starts _ (avoids_cons (refused c (by simp)) _),
        ih fun d member => refused d (by simp [member])⟩

theorem quiet_of_covers {form : Text → α → Prop} (covers : Covers reader form)
    {passed rest : Text}
    (absent : ∀ left right read after value, passed = left ++ right → right ≠ [] →
      right ++ rest = read ++ after → ¬ form read value) : Quiet reader passed rest := by
  induction passed with
  | nil => trivial
  | cons c passed ih =>
      refine ⟨fails_of_covers covers fun read after value split =>
        absent [] (c :: passed) read after value rfl (by simp) split, ih ?_⟩
      intro left right read after value shape
      exact absent (c :: left) right read after value (by simp [shape])

end Quiet

section Single

variable {α : Type} {reader : Reader α} {before : Option Char} {read passed rest : Text} {value : α}

theorem search_from_quiet (quiet : Quiet reader passed rest) (position : Nat)
    (before : Option Char) :
    searchFrom reader position before (passed ++ rest) =
      searchFrom reader (position + passed.length) (beforeEnd before passed) rest := by
  induction passed generalizing position before with
  | nil => rfl
  | cons c passed ih =>
      have step := ih quiet.2 (position + 1) (some c)
      rw [List.cons_append, searchFrom, fails_first quiet.1]
      rw [List.length_cons, Nat.add_comm passed.length, ← Nat.add_assoc]
      exact step

theorem search_from_here (reads : Reads reader before read rest value) (position : Nat) :
    searchFrom reader position before (read ++ rest) =
      some (⟨value, position, position + read.length⟩, Cursor.behind position before read rest) := by
  have here := reads position
  generalize read ++ rest = text at here
  cases text with
  | nil => simp [searchFrom, here, Cursor.behind]
  | cons c text => simp [searchFrom, here, Cursor.behind]

theorem search_first (quiet : Quiet reader passed (read ++ rest))
    (reads : Reads reader (beforeEnd none passed) read rest value) :
    search reader (passed ++ (read ++ rest)) =
      some ⟨value, passed.length, passed.length + read.length⟩ := by
  rw [search, search_from_quiet quiet, search_from_here reads, Nat.zero_add]
  rfl

theorem search_from_none {position : Nat} {before : Option Char} {left right : Text}
    (searched : searchFrom reader position before (left ++ right) = none) :
    reader.first? ⟨position + left.length, beforeEnd before left, right⟩ = none := by
  induction left generalizing position before with
  | nil =>
      cases right with
      | nil => exact Option.map_eq_none_iff.mp searched
      | cons c right =>
          rw [List.nil_append, searchFrom] at searched
          split at searched
          next => cases searched
          next refused => exact refused
  | cons c left ih =>
      rw [List.cons_append, searchFrom] at searched
      split at searched
      next => cases searched
      next =>
        rw [List.length_cons, Nat.add_comm left.length, ← Nat.add_assoc]
        exact ih searched

/-- A search finds something exactly if there is a way to read at some place. -/
theorem search_from_some_iff {position : Nat} {before : Option Char} {text : Text} :
    (searchFrom reader position before text).isSome = true ↔ ∃ left right, text = left ++ right ∧
      ∃ way, way ∈ reader ⟨position + left.length, beforeEnd before left, right⟩ := by
  constructor
  · intro found
    induction text generalizing position before with
    | nil =>
        obtain ⟨way, first⟩ := Option.isSome_iff_exists.mp (Option.isSome_map.symm.trans found)
        exact ⟨[], [], rfl, way, List.mem_of_head? first⟩
    | cons c text ih =>
        rw [searchFrom] at found
        split at found
        next way first => exact ⟨[], c :: text, rfl, way, List.mem_of_head? first⟩
        next =>
          obtain ⟨left, right, rfl, way⟩ := ih found
          refine ⟨c :: left, right, rfl, ?_⟩
          rwa [List.length_cons, Nat.add_comm left.length, ← Nat.add_assoc]
  · rintro ⟨left, right, rfl, way, member⟩
    by_contra missed
    have refused := search_from_none (Option.not_isSome_iff_eq_none.mp missed)
    rw [first?, List.head?_eq_none_iff] at refused
    rw [refused] at member
    exact List.not_mem_nil member

end Single

section Repeated

variable {α : Type} {reader : Reader α} {before : Option Char} {read passed rest : Text} {value : α}

theorem search_all_skip (skipped rest : Text) (position : Nat) (before : Option Char) :
    searchAll reader position before skipped.length (skipped ++ rest) =
      searchAll reader (position + skipped.length) (beforeEnd before skipped) 0 rest := by
  induction skipped generalizing position before with
  | nil => rfl
  | cons c skipped ih =>
      rw [List.length_cons, List.cons_append, searchAll, ih, Nat.add_assoc, Nat.add_comm 1]
      rfl

theorem search_all_quiet (quiet : Quiet reader passed rest) (position : Nat)
    (before : Option Char) :
    searchAll reader position before 0 (passed ++ rest) =
      searchAll reader (position + passed.length) (beforeEnd before passed) 0 rest := by
  induction passed generalizing position before with
  | nil => rfl
  | cons c passed ih =>
      have step := ih quiet.2 (position + 1) (some c)
      rw [List.cons_append, searchAll, fails_first quiet.1]
      rw [List.length_cons, Nat.add_comm passed.length, ← Nat.add_assoc]
      exact step

theorem search_all_here (reads : Reads reader before read rest value) (nonempty : read ≠ [])
    (position : Nat) :
    searchAll reader position before 0 (read ++ rest) =
      ⟨value, position, position + read.length⟩ ::
        searchAll reader (position + read.length) (beforeEnd before read) 0 rest := by
  obtain ⟨c, others, rfl⟩ := List.exists_cons_of_ne_nil nonempty
  have here := reads position
  have stop : (Cursor.behind position before (c :: others) rest).position =
      position + 1 + others.length := by
    simp only [Cursor.behind, List.length_cons]
    omega
  have left : position + 1 + others.length - position - 1 = others.length := by omega
  rw [List.cons_append] at here ⊢
  rw [searchAll, here]
  simp only [stop, left, search_all_skip]
  rw [List.length_cons, Nat.add_comm others.length, ← Nat.add_assoc]
  rfl

-- Where the reader can read, the first match starts there or before.
theorem search_all_early {left right : Text} {position : Nat} {before : Option Char}
    (nonempty : right ≠ [])
    (reads : ∀ position before, (reader.first? ⟨position, before, right⟩).isSome = true) :
    ∃ found others, searchAll reader position before 0 (left ++ right) = found :: others ∧
      found.start ≤ position + left.length := by
  induction left generalizing position before with
  | nil =>
      obtain ⟨c, rest, rfl⟩ := List.exists_cons_of_ne_nil nonempty
      obtain ⟨way, first⟩ := Option.isSome_iff_exists.mp (reads position before)
      rw [List.nil_append, searchAll, first]
      exact ⟨_, _, rfl, Nat.le_refl _⟩
  | cons c left ih =>
      rw [List.cons_append, searchAll]
      split
      next => exact ⟨_, _, rfl, Nat.le_add_right _ _⟩
      next =>
        obtain ⟨found, others, searched, early⟩ := @ih (position + 1) (some c)
        refine ⟨found, others, searched, ?_⟩
        rw [List.length_cons]
        omega

end Repeated

section Complete

variable {α : Type} {reader : Reader α} {position skip : Nat} {before : Option Char} {c : Char}
  {text : Text} {found : Found α}

/-- The reader reads `found` at its place, whatever was read before it. -/
def FoundAt (reader : Reader α) (position : Nat) (before : Option Char) (text : Text)
    (found : Found α) : Prop :=
  ∃ left right way, text = left ++ right ∧ right ≠ [] ∧
    reader.first? ⟨position + left.length, beforeEnd before left, right⟩ = some way ∧
    found = ⟨way.1, position + left.length, way.2.position⟩

theorem found_at_nil : ¬ FoundAt reader position before [] found := by
  rintro ⟨left, right, -, split, nonempty, -, -⟩
  exact nonempty (List.append_eq_nil_iff.mp split.symm).2

theorem found_at_cons : FoundAt reader position before (c :: text) found ↔
    (∃ way, reader.first? ⟨position, before, c :: text⟩ = some way ∧
      found = ⟨way.1, position, way.2.position⟩) ∨
    FoundAt reader (position + 1) (some c) text found := by
  have place : ∀ left : Text, position + (c :: left).length = position + 1 + left.length := by
    intro left
    rw [List.length_cons, Nat.add_assoc, Nat.add_comm 1]
  constructor
  · rintro ⟨left, right, way, split, nonempty, first, same⟩
    cases left with
    | nil =>
        obtain rfl : c :: text = right := split
        exact Or.inl ⟨way, first, same⟩
    | cons d left =>
        obtain ⟨rfl, rfl⟩ := List.cons.inj split
        rw [place] at first same
        exact Or.inr ⟨left, right, way, rfl, nonempty, first, same⟩
  · rintro (⟨way, first, same⟩ | ⟨left, right, way, rfl, nonempty, first, same⟩)
    · exact ⟨[], c :: text, way, rfl, List.cons_ne_nil c text, first, same⟩
    · rw [← place] at first same
      exact ⟨c :: left, right, way, rfl, nonempty, first, same⟩

theorem found_at_from (given : FoundAt reader position before text found) :
    position ≤ found.start := by
  obtain ⟨left, right, way, -, -, -, rfl⟩ := given
  exact Nat.le_add_right position left.length

def NoOverlap (reader : Reader α) : Prop :=
  ∀ position before c text way found, reader.first? ⟨position, before, c :: text⟩ = some way →
    FoundAt reader (position + 1) (some c) text found → way.2.position ≤ found.start

-- The characters to skip hide no match.
theorem mem_search_all (apart : NoOverlap reader)
    (later : ∀ found, FoundAt reader position before text found → position + skip ≤ found.start) :
    found ∈ searchAll reader position before skip text ↔
      FoundAt reader position before text found := by
  induction text generalizing position before skip with
  | nil => exact iff_of_false List.not_mem_nil found_at_nil
  | cons c text ih =>
      have tail : ∀ found, FoundAt reader (position + 1) (some c) text found →
          FoundAt reader position before (c :: text) found :=
        fun _ given => found_at_cons.mpr (Or.inr given)
      cases skip with
      | succ skip =>
          have beyond : ∀ found, FoundAt reader (position + 1) (some c) text found →
              position + 1 + skip ≤ found.start := by
            intro found given
            have late := later found (tail found given)
            omega
          rw [searchAll, ih beyond, found_at_cons, or_iff_right]
          rintro ⟨way, first, rfl⟩
          have late : position + (skip + 1) ≤ position :=
            later _ (found_at_cons.mpr (Or.inl ⟨way, first, rfl⟩))
          omega
      | zero =>
          rw [searchAll, found_at_cons]
          cases first : reader.first? ⟨position, before, c :: text⟩ with
          | none =>
              dsimp only
              rw [ih fun _ given => found_at_from given, or_iff_right]
              rintro ⟨way, given, -⟩
              cases given
          | some way =>
              have beyond : ∀ found, FoundAt reader (position + 1) (some c) text found →
                  position + 1 + (way.2.position - position - 1) ≤ found.start := by
                intro found given
                have behind := apart position before c text way found first given
                have ahead := found_at_from given
                omega
              dsimp only
              rw [List.mem_cons, ih beyond]
              simp

/-- A repeated search finds every match of a reader whose matches do not overlap. -/
theorem mem_find_all (apart : NoOverlap reader) :
    found ∈ findAll reader text ↔ FoundAt reader 0 none text found :=
  mem_search_all apart fun _ given => found_at_from given

theorem search_all_from (member : found ∈ searchAll reader position before skip text) :
    position ≤ found.start := by
  induction text generalizing position before skip with
  | nil => exact absurd member List.not_mem_nil
  | cons c text ih =>
      cases skip with
      | succ skip => exact Nat.le_of_succ_le (ih member)
      | zero =>
          rw [searchAll] at member
          split at member
          next =>
            rcases List.mem_cons.mp member with rfl | member
            · exact Nat.le_refl position
            · exact Nat.le_of_succ_le (ih member)
          next => exact Nat.le_of_succ_le (ih member)

theorem search_all_ascending (reader : Reader α) (position : Nat) (before : Option Char)
    (skip : Nat) (text : Text) :
    (searchAll reader position before skip text).Pairwise fun one two => one.start < two.start := by
  induction text generalizing position before skip with
  | nil => exact List.Pairwise.nil
  | cons c text ih =>
      cases skip with
      | succ skip => exact ih _ _ _
      | zero =>
          rw [searchAll]
          split
          next => exact List.pairwise_cons.mpr ⟨fun _ member => search_all_from member, ih _ _ _⟩
          next => exact ih _ _ _

end Complete

section Places

variable {α : Type} {reader : Reader α} {form : Text → α → Prop}

def FoundIn (form : Text → α → Prop) (offset : Nat) (text : Text) (found : Found α) : Prop :=
  ∃ left read right, text = left ++ (read ++ right) ∧ form read found.value ∧
    found.start = offset + left.length ∧ found.stop = found.start + read.length

theorem found_cons {offset : Nat} {c : Char} {text : Text} {found : Found α}
    (tail : FoundIn form (offset + 1) text found) : FoundIn form offset (c :: text) found := by
  obtain ⟨left, read, right, rfl, formed, start, stop⟩ := tail
  refine ⟨c :: left, read, right, rfl, formed, ?_, stop⟩
  rw [start, List.length_cons, Nat.add_assoc, Nat.add_comm 1]

theorem found_here (covers : Covers reader form) {position : Nat} {before : Option Char}
    {text : Text} {result : α × Cursor}
    (first : reader.first? ⟨position, before, text⟩ = some result) :
    FoundIn form position text ⟨result.1, position, result.2.position⟩ := by
  obtain ⟨read, formed, split, place⟩ := covers _ result (List.mem_of_head? first)
  refine ⟨[], read, result.2.rest, split, formed, rfl, ?_⟩
  rw [place]
  rfl

theorem first_rest [advances : Advances reader] {text : Text} {value : α} {after : Cursor}
    (first : reader.first? (Cursor.start text) = some (value, after)) :
    text.drop after.position = after.rest := by
  obtain ⟨read, _, split, place⟩ := advances.covers _ _ (List.mem_of_head? first)
  have position : after.position = read.length :=
    (congrArg Cursor.position place).trans (Nat.zero_add _)
  have whole : text = read ++ after.rest := split
  rw [position, whole, List.drop_left]

theorem search_from_found (covers : Covers reader form) {position : Nat} {before : Option Char}
    {text : Text} {result : Found α × Cursor}
    (searched : searchFrom reader position before text = some result) :
    FoundIn form position text result.1 := by
  induction text generalizing position before with
  | nil =>
      obtain ⟨way, first, rfl⟩ := Option.map_eq_some_iff.mp searched
      exact found_here covers first
  | cons c text ih =>
      rw [searchFrom] at searched
      split at searched
      next way first =>
        obtain rfl := Option.some.inj searched
        exact found_here covers first
      next => exact found_cons (ih searched)

theorem search_found (covers : Covers reader form) {text : Text} {found : Found α}
    (searched : search reader text = some found) : FoundIn form 0 text found := by
  obtain ⟨result, first, rfl⟩ := Option.map_eq_some_iff.mp searched
  exact search_from_found covers first

theorem search_all_found (covers : Covers reader form) {position skip : Nat}
    {before : Option Char} {text : Text} {found : Found α}
    (member : found ∈ searchAll reader position before skip text) :
    FoundIn form position text found := by
  induction text generalizing position before skip with
  | nil => exact absurd member List.not_mem_nil
  | cons c text ih =>
      cases skip with
      | succ left => exact found_cons (ih member)
      | zero =>
          rw [searchAll] at member
          split at member
          next way first =>
            rcases List.mem_cons.mp member with rfl | member
            · exact found_here covers first
            · exact found_cons (ih member)
          next => exact found_cons (ih member)

theorem find_all_found (covers : Covers reader form) {text : Text} {found : Found α}
    (member : found ∈ findAll reader text) : FoundIn form 0 text found :=
  search_all_found covers member

end Places

section Choice

variable {α : Type} {reader : Reader α} {position start : Nat} {before : Option Char} {text : Text}

def startFrom (reader : Reader α) (position : Nat) (before : Option Char) (text : Text) :
    Option Nat :=
  (searchFrom reader position before text).map (·.1.start)

theorem start_here (here : (reader.first? ⟨position, before, text⟩).isSome = true) :
    startFrom reader position before text = some position := by
  obtain ⟨way, first⟩ := Option.isSome_iff_exists.mp here
  cases text <;> simp [startFrom, searchFrom, first]

theorem start_later {c : Char} (refused : reader.first? ⟨position, before, c :: text⟩ = none) :
    startFrom reader position before (c :: text) =
      startFrom reader (position + 1) (some c) text := by
  rw [startFrom, searchFrom, refused]
  rfl

theorem start_le (found : startFrom reader position before text = some start) :
    position ≤ start := by
  induction text generalizing position before with
  | nil =>
      obtain ⟨result, searched, rfl⟩ := Option.map_eq_some_iff.mp found
      obtain ⟨way, -, rfl⟩ := Option.map_eq_some_iff.mp searched
      exact Nat.le_refl position
  | cons c text ih =>
      by_cases here : (reader.first? ⟨position, before, c :: text⟩).isSome = true
      · rw [start_here here] at found
        exact Nat.le_of_eq (Option.some.inj found)
      · rw [start_later (Option.not_isSome_iff_eq_none.mp here)] at found
        exact Nat.le_of_succ_le (ih found)

theorem first_or (first second : Reader α) (cursor : Cursor) :
    (orElse first second).first? cursor = (first.first? cursor).or (second.first? cursor) :=
  List.head?_append

-- A match of one reader at this very place comes before every match of the other.
theorem start_from_or (first second : Reader α) (position : Nat) (before : Option Char)
    (text : Text) :
    startFrom (orElse first second) position before text =
      ((startFrom first position before text).toList ++
        (startFrom second position before text).toList).min? := by
  induction text generalizing position before with
  | nil =>
      simp only [startFrom, searchFrom, first_or]
      cases first.first? ⟨position, before, []⟩ <;>
        cases second.first? ⟨position, before, []⟩ <;> simp
  | cons c text ih =>
      by_cases left : (first.first? ⟨position, before, c :: text⟩).isSome = true
      · rw [start_here left, start_here (by simp [first_or, left])]
        cases later : startFrom second position before (c :: text) with
        | none => rfl
        | some start => simp [Nat.min_eq_left (start_le later)]
      by_cases right : (second.first? ⟨position, before, c :: text⟩).isSome = true
      · rw [start_here right, start_here (by simp [first_or, right])]
        cases later : startFrom first position before (c :: text) with
        | none => rfl
        | some start => simp [Nat.min_eq_right (start_le later)]
      · simp only [Option.not_isSome_iff_eq_none] at left right
        rw [start_later left, start_later right, start_later (by simp [first_or, left, right])]
        exact ih _ _

/-- The first match of either of two readers is the earlier one of their first matches. -/
theorem search_or_start (first second : Reader α) (text : Text) :
    (search (orElse first second) text).map (·.start) =
      (((search first text).map (·.start)).toList ++
        ((search second text).map (·.start)).toList).min? := by
  simp only [search, Option.map_map]
  exact start_from_or first second 0 none text

end Choice

end Reader

end PatternInspector.Text
