import PatternInspector.Proofs.Text.Search

/-!
Exactly which texts a reader passes over. `Takes` gives a condition on a text, on the character
before it and on what follows it, and says that there is a way to read over the text if and only if
the condition holds. Whether a search finds something then no longer depends on the order in which
the reader tries its ways.
-/
namespace PatternInspector.Text.Reader

variable {α β : Type}

/-- The reader can pass over a text exactly if the text has the form in its surroundings. -/
def Takes (reader : Reader α) (form : Option Char → Text → Text → Prop) : Prop :=
  ∀ cursor place, (∃ value, (value, place) ∈ reader cursor) ↔
    ∃ passed rest, cursor.rest = passed ++ rest ∧ form cursor.before passed rest ∧
      place = Cursor.behind cursor.position cursor.before passed rest

section Composition

variable {reader other : Reader α} {form form' : Option Char → Text → Text → Prop}

theorem takes_congr (takes : Takes reader form)
    (same : ∀ before passed rest, form before passed rest ↔ form' before passed rest) :
    Takes reader form' := by
  intro cursor place
  rw [takes cursor place]
  exact exists_congr fun passed => exists_congr fun rest =>
    and_congr_right fun _ => and_congr_left fun _ => same cursor.before passed rest

theorem takes_pure (value : α) : Takes (pure value) fun _ passed _ => passed = [] := by
  intro cursor place
  constructor
  · rintro ⟨given, member⟩
    obtain ⟨rfl, rfl⟩ := Prod.mk.inj (List.mem_singleton.mp member)
    exact ⟨[], place.rest, rfl, rfl, rfl⟩
  · rintro ⟨_, rest, split, rfl, rfl⟩
    obtain rfl : cursor.rest = rest := split
    exact ⟨value, List.mem_singleton.mpr rfl⟩

theorem takes_then {next : α → Reader β} (first : Takes reader form)
    (second : ∀ value, Takes (next value) form') :
    Takes (reader >>= next) fun before passed rest => ∃ left right, passed = left ++ right ∧
      form before left (right ++ rest) ∧ form' (beforeEnd before left) right rest := by
  intro cursor place
  constructor
  · rintro ⟨value, member⟩
    obtain ⟨⟨given, middle⟩, found, later⟩ := List.mem_flatMap.mp member
    obtain ⟨left, behind, split, formed, rfl⟩ := (first cursor middle).mp ⟨given, found⟩
    obtain ⟨right, rest, shape, formed', rfl⟩ := (second given _ place).mp ⟨value, later⟩
    obtain rfl : behind = right ++ rest := shape
    exact ⟨left ++ right, rest, by rw [split, List.append_assoc],
      ⟨left, right, rfl, formed, formed'⟩, (Cursor.behind_append _ _ _ _ _).symm⟩
  · rintro ⟨_, rest, split, ⟨left, right, rfl, formed, formed'⟩, rfl⟩
    rw [List.append_assoc] at split
    obtain ⟨given, found⟩ := (first cursor _).mpr ⟨left, right ++ rest, split, formed, rfl⟩
    obtain ⟨value, later⟩ := (second given (Cursor.behind _ _ left (right ++ rest)) _).mpr
      ⟨right, rest, rfl, formed', rfl⟩
    refine ⟨value, List.mem_flatMap.mpr ⟨_, found, ?_⟩⟩
    rw [Cursor.behind_append]
    exact later

theorem takes_or (left : Takes reader form) (right : Takes other form') :
    Takes (orElse reader other) fun before passed rest =>
      form before passed rest ∨ form' before passed rest := by
  intro cursor place
  have either : (∃ value, (value, place) ∈ orElse reader other cursor) ↔
      (∃ value, (value, place) ∈ reader cursor) ∨ ∃ value, (value, place) ∈ other cursor := by
    rw [← exists_or]
    exact exists_congr fun value => List.mem_append
  rw [either, left cursor place, right cursor place, ← exists_or]
  simp only [← exists_or, ← and_or_left, ← or_and_right]

theorem takes_matched (takes : Takes reader form) : Takes (matched reader) form := by
  intro cursor place
  rw [← takes cursor place]
  constructor
  · rintro ⟨value, member⟩
    obtain ⟨origin, present, same⟩ := List.mem_map.mp member
    exact ⟨origin.1, (Prod.mk.inj same).2 ▸ present⟩
  · rintro ⟨value, member⟩
    exact ⟨_, List.mem_map.mpr ⟨(value, place), member, rfl⟩⟩

theorem matched_way (takes : Takes reader form) {cursor : Cursor} {way : Text × Cursor}
    (member : way ∈ matched reader cursor) : ∃ rest, cursor.rest = way.1 ++ rest ∧
      form cursor.before way.1 rest ∧
      way.2 = Cursor.behind cursor.position cursor.before way.1 rest := by
  obtain ⟨⟨value, place⟩, present, rfl⟩ := List.mem_map.mp member
  obtain ⟨passed, rest, split, formed, rfl⟩ := (takes cursor place).mp ⟨value, present⟩
  have read : cursor.rest.take ((Cursor.behind cursor.position cursor.before passed rest).position -
      cursor.position) = passed := by
    rw [split]
    simp [Cursor.behind]
  refine ⟨rest, ?_⟩
  dsimp only
  rw [read]
  exact ⟨split, formed, rfl⟩

end Composition

section Characters

variable {accepts : Char → Bool}

theorem takes_char (accepts : Char → Bool) :
    Takes (char accepts) fun _ passed _ => ∃ c, passed = [c] ∧ accepts c = true := by
  intro cursor place
  constructor
  · rintro ⟨value, member⟩
    obtain ⟨_, ⟨rfl, accepted⟩, split, behind⟩ := covers_char accepts cursor _ member
    exact ⟨[value], place.rest, split, ⟨value, rfl, accepted⟩, behind⟩
  · rintro ⟨_, rest, split, ⟨c, rfl, accepted⟩, rfl⟩
    have ways : char accepts cursor = [(c, cursor.next)] := by
      simp [char, split, accepted]
    refine ⟨c, ?_⟩
    obtain ⟨position, before, _⟩ := cursor
    obtain rfl : _ = c :: rest := split
    rw [ways]
    exact List.mem_singleton.mpr rfl

theorem takes_single (c : Char) : Takes (single c) fun _ passed _ => passed = [c] := by
  refine takes_congr (takes_then (takes_char _) fun _ => takes_pure ()) fun _ passed _ => ?_
  constructor
  · rintro ⟨_, _, rfl, ⟨d, rfl, same⟩, rfl⟩
    rw [beq_iff_eq.mp same]
    rfl
  · rintro rfl
    exact ⟨[c], [], rfl, ⟨c, rfl, beq_self_eq_true c⟩, rfl⟩

theorem takes_chars (text : Text) : Takes (chars text) fun _ passed _ => passed = text := by
  induction text with
  | nil => exact takes_pure ()
  | cons c text ih =>
      refine takes_congr (takes_then (takes_single c) fun _ => ih) fun _ passed _ => ?_
      constructor
      · rintro ⟨_, _, rfl, rfl, rfl⟩
        rfl
      · rintro rfl
        exact ⟨[c], text, rfl, rfl, rfl⟩

theorem takes_words (choices : List String) :
    Takes (words choices) fun _ passed _ => ∃ choice ∈ choices, passed = choice.toList := by
  induction choices with
  | nil =>
      intro cursor place
      constructor
      · rintro ⟨value, member⟩
        exact absurd member List.not_mem_nil
      · rintro ⟨_, _, _, ⟨_, absent, _⟩, _⟩
        exact absurd absent List.not_mem_nil
  | cons choice choices ih =>
      refine takes_congr (takes_or (takes_chars choice.toList) ih) fun _ passed _ => ?_
      simp only [List.mem_cons, exists_eq_or_imp]

theorem reachable_passed {passed : Text} (inside : ∀ c ∈ passed, accepts c = true)
    (position : Nat) (before : Option Char) (rest : Text) :
    Cursor.behind position before passed rest ∈
      reachable accepts position before (passed ++ rest) := by
  obtain ⟨earlier, split, -⟩ := reachable_split inside position before rest
  obtain ⟨others, here⟩ :=
    reachable_here accepts (position + passed.length) (beforeEnd before passed) rest
  rw [split, here]
  exact List.mem_append_right earlier List.mem_cons_self

theorem takes_many (accepts : Char → Bool) :
    Takes (many accepts) fun _ passed _ => ∀ c ∈ passed, accepts c = true := by
  intro cursor place
  constructor
  · rintro ⟨value, member⟩
    obtain ⟨passed, inside, split, behind⟩ := covers_many accepts cursor _ member
    exact ⟨passed, place.rest, split, inside, behind⟩
  · rintro ⟨passed, rest, split, inside, rfl⟩
    refine ⟨(), List.mem_map.mpr ⟨_, List.mem_reverse.mpr ?_, rfl⟩⟩
    rw [split]
    exact reachable_passed inside _ _ _

theorem takes_many1 (accepts : Char → Bool) :
    Takes (many1 accepts) fun _ passed _ => passed ≠ [] ∧ ∀ c ∈ passed, accepts c = true := by
  refine takes_congr (takes_then (takes_char accepts) fun _ => takes_many accepts) ?_
  intro _ passed _
  constructor
  · rintro ⟨_, right, rfl, ⟨c, rfl, accepted⟩, inside⟩
    exact ⟨List.cons_ne_nil c right, List.forall_mem_cons.mpr ⟨accepted, inside⟩⟩
  · rintro ⟨nonempty, inside⟩
    obtain ⟨c, right, rfl⟩ := List.exists_cons_of_ne_nil nonempty
    obtain ⟨accepted, inside⟩ := List.forall_mem_cons.mp inside
    exact ⟨[c], right, rfl, ⟨c, rfl, accepted⟩, inside⟩

theorem takes_provided {holds : Cursor → Bool} {test : Option Char → Text → Prop}
    (same : ∀ cursor, holds cursor = true ↔ test cursor.before cursor.rest) :
    Takes (provided holds) fun before passed rest => passed = [] ∧ test before rest := by
  intro cursor place
  constructor
  · rintro ⟨value, member⟩
    unfold provided at member
    split at member
    next fits =>
      obtain ⟨rfl, rfl⟩ := Prod.mk.inj (List.mem_singleton.mp member)
      exact ⟨[], place.rest, rfl, ⟨rfl, (same place).mp fits⟩, rfl⟩
    next => exact absurd member List.not_mem_nil
  · rintro ⟨_, rest, split, ⟨rfl, fits⟩, rfl⟩
    obtain ⟨position, before, _⟩ := cursor
    obtain rfl : _ = rest := split
    refine ⟨(), ?_⟩
    unfold provided
    rw [if_pos ((same _).mpr fits)]
    exact List.mem_singleton.mpr rfl

theorem takes_word_edge : Takes wordEdge fun before passed rest =>
    passed = [] ∧ before.any isWord ≠ rest.head?.any isWord :=
  takes_provided fun _ => bne_iff_ne

theorem takes_not_after (rejects : Char → Bool) : Takes (notAfter rejects) fun before passed _ =>
    passed = [] ∧ before.any rejects = false :=
  takes_provided fun _ => by rw [Bool.not_eq_true']

theorem takes_at_end : Takes atEnd fun _ passed rest =>
    passed = [] ∧ (rest = [] ∨ rest = ['\n']) :=
  takes_provided fun _ => by rw [Bool.or_eq_true, beq_iff_eq, beq_iff_eq]

end Characters

section Searching

variable {reader : Reader α} {form : Option Char → Text → Text → Prop} {position : Nat}
  {before : Option Char} {text : Text}

theorem some_way (takes : Takes reader form) :
    (∃ way, way ∈ reader ⟨position, before, text⟩) ↔
      ∃ passed rest, text = passed ++ rest ∧ form before passed rest := by
  constructor
  · rintro ⟨⟨value, place⟩, member⟩
    obtain ⟨passed, rest, split, formed, -⟩ := (takes _ place).mp ⟨value, member⟩
    exact ⟨passed, rest, split, formed⟩
  · rintro ⟨passed, rest, split, formed⟩
    obtain ⟨value, member⟩ := (takes ⟨position, before, text⟩ _).mpr
      ⟨passed, rest, split, formed, rfl⟩
    exact ⟨_, member⟩

theorem first_takes (takes : Takes reader form) :
    (reader.first? ⟨position, before, text⟩).isSome = true ↔
      ∃ passed rest, text = passed ++ rest ∧ form before passed rest := by
  rw [first?, List.isSome_head?, ← List.length_pos_iff, List.length_pos_iff_exists_mem,
    some_way takes]

theorem fails_takes (takes : Takes reader form)
    (absent : ∀ before passed rest, text = passed ++ rest → ¬ form before passed rest) :
    Fails reader text := by
  intro position before
  refine List.eq_nil_iff_forall_not_mem.mpr fun way member => ?_
  obtain ⟨passed, rest, split, formed⟩ := (some_way takes).mp ⟨way, member⟩
  exact absent before passed rest split formed

theorem search_takes (takes : Takes reader form) :
    (searchFrom reader position before text).isSome = true ↔ ∃ left passed rest,
      text = left ++ (passed ++ rest) ∧ form (beforeEnd before left) passed rest := by
  rw [search_from_some_iff]
  refine exists_congr fun left => ?_
  constructor
  · rintro ⟨_, rfl, ways⟩
    obtain ⟨passed, rest, rfl, formed⟩ := (some_way takes).mp ways
    exact ⟨passed, rest, rfl, formed⟩
  · rintro ⟨passed, rest, split, formed⟩
    exact ⟨passed ++ rest, split, (some_way takes).mpr ⟨passed, rest, rfl, formed⟩⟩

theorem occurs_takes (takes : Takes reader form) :
    occurs reader text = true ↔ ∃ left passed rest,
      text = left ++ (passed ++ rest) ∧ form (beforeEnd none left) passed rest := by
  rw [occurs, search, Option.isSome_map, search_takes takes]

end Searching

section Repeated

variable {reader : Reader α} {passed rest : Text}

-- As `search_all_quiet`, when the last match still covers a part of the text that is passed.
theorem search_all_rest (quiet : Quiet reader passed rest) {skip : Nat}
    (covered : skip ≤ passed.length) (position : Nat) (before : Option Char) :
    searchAll reader position before skip (passed ++ rest) =
      searchAll reader (position + passed.length) (beforeEnd before passed) 0 rest := by
  induction passed generalizing position before skip with
  | nil =>
      obtain rfl : skip = 0 := Nat.le_zero.mp covered
      rfl
  | cons c passed ih =>
      cases skip with
      | zero => exact search_all_quiet quiet position before
      | succ left =>
          have step := ih quiet.2 (Nat.le_of_succ_le_succ covered) (position + 1) (some c)
          rw [List.cons_append, searchAll, step, List.length_cons, Nat.add_comm passed.length,
            ← Nat.add_assoc]
          rfl

end Repeated

end PatternInspector.Text.Reader
