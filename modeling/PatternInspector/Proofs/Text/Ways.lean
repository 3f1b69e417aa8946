import PatternInspector.Proofs.Text.Reader

/-!
What a reader can read at all. `Covers` says that every way to read passes over a text of a certain
form and leaves the cursor right behind it. A reader whose forms do not occur in a text fails on it,
and the characters that a match ends with can be read off its form.
-/
namespace PatternInspector.Text.Reader

variable {α β : Type}

/-- Every way to read passes over a text that has the form of its value. -/
def Covers (reader : Reader α) (form : Text → α → Prop) : Prop :=
  ∀ cursor, ∀ way ∈ reader cursor, ∃ passed, form passed way.1 ∧
    cursor.rest = passed ++ way.2.rest ∧
    way.2 = Cursor.behind cursor.position cursor.before passed way.2.rest

section Composition

variable {reader other : Reader α} {form form' : Text → α → Prop}

theorem fails_of_covers (covers : Covers reader form) {text : Text}
    (absent : ∀ passed after value, text = passed ++ after → ¬ form passed value) :
    Fails reader text := by
  intro position before
  refine List.eq_nil_iff_forall_not_mem.mpr fun way member => ?_
  obtain ⟨passed, formed, split, _⟩ := covers _ way member
  exact absent passed _ way.1 split formed

theorem covers_mono (covers : Covers reader form)
    (weaker : ∀ passed value, form passed value → form' passed value) : Covers reader form' := by
  intro cursor way member
  obtain ⟨passed, formed, place⟩ := covers cursor way member
  exact ⟨passed, weaker passed way.1 formed, place⟩

theorem covers_pure (value : α) :
    Covers (pure value) fun passed given => passed = [] ∧ given = value := by
  intro cursor way member
  obtain rfl := List.mem_singleton.mp member
  exact ⟨[], ⟨rfl, rfl⟩, rfl, rfl⟩

theorem covers_bind {next : α → Reader β} {forms : α → Text → β → Prop}
    (first : Covers reader form) (second : ∀ value, Covers (next value) (forms value)) :
    Covers (reader >>= next) fun passed result =>
      ∃ left right value, passed = left ++ right ∧ form left value ∧ forms value right result := by
  intro cursor way member
  obtain ⟨⟨value, middle⟩, found, member⟩ := List.mem_flatMap.mp member
  obtain ⟨left, formed, split, place⟩ := first cursor _ found
  obtain ⟨right, formed', split', place'⟩ := second value middle way member
  refine ⟨left ++ right, ⟨left, right, value, rfl, formed, formed'⟩, ?_, ?_⟩
  · rw [split, List.append_assoc]
    exact congrArg (left ++ ·) split'
  · rw [Cursor.behind_append, place', show middle = _ from place]
    rfl

theorem fails_covered {next : α → Reader β} (first : Covers reader form) {text : Text}
    (refused : ∀ passed after value, text = passed ++ after → form passed value →
      Fails (next value) after) : Fails (reader >>= next) text := by
  refine fails_after fun position before way member => ?_
  obtain ⟨passed, formed, split, _⟩ := first _ way member
  exact refused passed way.2.rest way.1 split formed way.2.position way.2.before

theorem covers_or (left : Covers reader form) (right : Covers other form') :
    Covers (orElse reader other) fun passed value => form passed value ∨ form' passed value := by
  intro cursor way member
  rcases List.mem_append.mp member with member | member
  · obtain ⟨passed, formed, place⟩ := left cursor way member
    exact ⟨passed, Or.inl formed, place⟩
  · obtain ⟨passed, formed, place⟩ := right cursor way member
    exact ⟨passed, Or.inr formed, place⟩

theorem covers_one_of (readers : List (Reader α))
    (covers : ∀ reader ∈ readers, Covers reader form) : Covers (oneOf readers) form := by
  induction readers with
  | nil => exact fun cursor way member => absurd member List.not_mem_nil
  | cons reader others ih =>
      have tail := ih fun other member => covers other (by simp [member])
      exact covers_mono (covers_or (covers reader (by simp)) tail) fun _ _ => or_self_iff.mp

theorem covers_matched (covers : Covers reader form) :
    Covers (matched reader) fun passed value => value = passed ∧ ∃ given, form passed given := by
  intro cursor way member
  obtain ⟨origin, present, rfl⟩ := List.mem_map.mp member
  obtain ⟨passed, formed, split, place⟩ := covers cursor origin present
  refine ⟨passed, ⟨?_, origin.1, formed⟩, split, place⟩
  rw [split, place]
  simp [Cursor.behind]

end Composition

section Characters

variable {accepts : Char → Bool}

theorem covers_char (accepts : Char → Bool) :
    Covers (char accepts) fun passed c => passed = [c] ∧ accepts c = true := by
  intro cursor way member
  obtain ⟨position, before, rest⟩ := cursor
  cases rest with
  | nil => simp [char] at member
  | cons c rest =>
      by_cases accepted : accepts c = true
      · simp only [char, accepted, if_true, List.mem_singleton] at member
        subst member
        exact ⟨[c], ⟨rfl, accepted⟩, rfl, rfl⟩
      · simp [char, accepted] at member

theorem covers_single (c : Char) : Covers (single c) fun passed _ => passed = [c] := by
  refine covers_mono (covers_bind (covers_char _) fun _ => covers_pure ()) ?_
  rintro _ _ ⟨left, right, value, rfl, ⟨rfl, same⟩, rfl, _⟩
  simpa using same

theorem covers_chars (text : Text) : Covers (chars text) fun passed _ => passed = text := by
  induction text with
  | nil => exact covers_mono (covers_pure ()) fun _ _ given => given.1
  | cons c text ih =>
      refine covers_mono (covers_bind (covers_single c) fun _ => ih) ?_
      rintro _ _ ⟨left, right, value, rfl, rfl, rfl⟩
      rfl

theorem covers_words (choices : List String) :
    Covers (words choices) fun passed _ => ∃ choice ∈ choices, passed = choice.toList := by
  refine covers_one_of _ fun reader member => ?_
  obtain ⟨choice, present, rfl⟩ := List.mem_map.mp member
  exact covers_mono (covers_chars choice.toList) fun _ _ same => ⟨choice, present, same⟩

theorem reachable_passes (accepts : Char → Bool) (position : Nat) (before : Option Char)
    (text : Text) (place : Cursor) (member : place ∈ reachable accepts position before text) :
    ∃ passed, (∀ c ∈ passed, accepts c = true) ∧ text = passed ++ place.rest ∧
      place = Cursor.behind position before passed place.rest := by
  induction text generalizing position before with
  | nil =>
      obtain rfl := List.mem_singleton.mp member
      exact ⟨[], by simp, rfl, rfl⟩
  | cons c text ih =>
      rcases List.mem_cons.mp member with rfl | member
      · exact ⟨[], by simp, rfl, rfl⟩
      · split at member
        next accepted =>
          obtain ⟨passed, inside, split, place⟩ := ih _ _ member
          refine ⟨c :: passed, ?_, by rw [split]; rfl, ?_⟩
          · simpa [accepted] using inside
          · rw [place]
            simp [Cursor.behind, Nat.add_assoc, Nat.add_comm 1]
        next => exact absurd member List.not_mem_nil

theorem covers_many (accepts : Char → Bool) :
    Covers (many accepts) fun passed _ => ∀ c ∈ passed, accepts c = true := by
  intro cursor way member
  obtain ⟨place, present, rfl⟩ := List.mem_map.mp member
  exact reachable_passes accepts _ _ _ place (List.mem_reverse.mp present)

theorem covers_provided (holds : Cursor → Bool) :
    Covers (provided holds) fun passed _ => passed = [] := by
  intro cursor way member
  unfold provided at member
  split at member
  next =>
    obtain rfl := List.mem_singleton.mp member
    exact ⟨[], rfl, rfl, rfl⟩
  next => exact absurd member List.not_mem_nil

theorem covers_few (accepts : Char → Bool) :
    Covers (few accepts) fun passed _ => ∀ c ∈ passed, accepts c = true := by
  intro cursor way member
  obtain ⟨place, present, rfl⟩ := List.mem_map.mp member
  exact reachable_passes accepts _ _ _ place present

end Characters

section Idle

def Idle (reader : Reader α) (text : Text) : Prop :=
  ∀ position before, ∀ way ∈ reader ⟨position, before, text⟩, way.2.rest = text

variable {reader : Reader α} {text : Text}

theorem fails_idle {next : α → Reader β} (idle : Idle reader text)
    (fails : ∀ value, Fails (next value) text) : Fails (reader >>= next) text := by
  refine fails_after fun position before way member => ?_
  have here : Fails (next way.1) way.2.rest := idle position before way member ▸ fails way.1
  exact here way.2.position way.2.before

theorem idle_optional (fails : Fails reader text) : Idle (optional reader) text := by
  intro position before way member
  rcases List.mem_append.mp member with member | member
  · rw [fails_bind fails] at member
    exact absurd member List.not_mem_nil
  · obtain rfl := List.mem_singleton.mp member
    rfl

theorem idle_many {accepts : Char → Bool} (avoids : Avoids accepts text) :
    Idle (many accepts) text := by
  intro position before way member
  obtain ⟨place, present, rfl⟩ := List.mem_map.mp member
  rw [reachable_only avoids] at present
  obtain rfl := List.mem_singleton.mp present
  rfl

theorem idle_repeated {reader : Reader Unit} (fails : Fails reader text) (limit : Nat) :
    Idle (repeated reader limit) text := by
  intro position before way member
  cases limit with
  | zero =>
      obtain rfl := List.mem_singleton.mp member
      rfl
  | succ limit =>
      rcases List.mem_append.mp member with member | member
      · rw [fails_bind fails] at member
        exact absurd member List.not_mem_nil
      · obtain rfl := List.mem_singleton.mp member
        rfl

end Idle

section Advancing

variable {α β : Type}

/-- A reader that only ever passes over text and goes on behind it. -/
class Advances (reader : Reader α) : Prop where
  covers : Covers reader fun _ _ => True

theorem advances_of_covers {reader : Reader α} {form : Text → α → Prop}
    (covers : Covers reader form) : Advances reader :=
  ⟨covers_mono covers fun _ _ _ => trivial⟩

variable {reader other : Reader α} {next : α → Reader β}

instance (value : α) : Advances (pure value : Reader α) := advances_of_covers (covers_pure value)

instance [first : Advances reader] [second : ∀ value, Advances (next value)] :
    Advances (reader >>= next) :=
  advances_of_covers (covers_bind first.covers fun value => (second value).covers)

instance [left : Advances reader] [right : Advances other] : Advances (orElse reader other) :=
  advances_of_covers (covers_or left.covers right.covers)

instance [Advances reader] : Advances (optional reader) :=
  inferInstanceAs (Advances (orElse (reader >>= fun value => pure (some value)) (pure none)))

instance [given : Advances reader] : Advances (matched reader) :=
  advances_of_covers (covers_matched given.covers)

instance (accepts : Char → Bool) : Advances (char accepts) :=
  advances_of_covers (covers_char accepts)

instance (c : Char) : Advances (single c) := advances_of_covers (covers_single c)

instance (text : Text) : Advances (chars text) := advances_of_covers (covers_chars text)

instance (given : String) : Advances (word given) := inferInstanceAs (Advances (chars given.toList))

instance (choices : List String) : Advances (words choices) :=
  advances_of_covers (covers_words choices)

instance (accepts : Char → Bool) : Advances (many accepts) :=
  advances_of_covers (covers_many accepts)

instance (accepts : Char → Bool) : Advances (few accepts) :=
  advances_of_covers (covers_few accepts)

instance (accepts : Char → Bool) : Advances (many1 accepts) :=
  inferInstanceAs (Advances (char accepts >>= fun _ => many accepts))

instance : Advances blanks := inferInstanceAs (Advances (many isBlank))

instance : Advances blanks1 := inferInstanceAs (Advances (many1 isBlank))

instance : Advances name :=
  inferInstanceAs (Advances (char isNameStart >>= fun _ => many isNamePart))

instance (holds : Cursor → Bool) : Advances (provided holds) :=
  advances_of_covers (covers_provided holds)

instance : Advances wordEdge := advances_of_covers (covers_provided _)

instance (rejects : Char → Bool) : Advances (notAfter rejects) :=
  advances_of_covers (covers_provided _)

end Advancing

section Endings

variable {α β : Type} {reader other : Reader α} {accepts : Char → Bool}

def EndsWith (accepts : Char → Bool) (reader : Reader α) : Prop :=
  Covers reader fun passed _ => ∃ left c, passed = left ++ [c] ∧ accepts c = true

theorem ends_char {given : Char → Bool} (narrow : ∀ c, given c = true → accepts c = true) :
    EndsWith accepts (char given) := by
  refine covers_mono (covers_char given) ?_
  rintro _ c ⟨rfl, accepted⟩
  exact ⟨[], c, rfl, narrow c accepted⟩

theorem ends_single {c : Char} (accepted : accepts c = true) : EndsWith accepts (single c) :=
  covers_mono (covers_single c) fun _ _ same => ⟨[], c, same, accepted⟩

theorem ends_after {next : α → Reader β} [first : Advances reader]
    (second : ∀ value, EndsWith accepts (next value)) : EndsWith accepts (reader >>= next) := by
  refine covers_mono (covers_bind first.covers second) ?_
  rintro _ _ ⟨left, _, _, rfl, _, inner, c, rfl, accepted⟩
  exact ⟨left ++ inner, c, (List.append_assoc _ _ _).symm, accepted⟩

theorem ends_then_pure (ends : EndsWith accepts reader) (f : α → β) :
    EndsWith accepts (reader >>= fun value => pure (f value)) := by
  refine covers_mono (covers_bind ends fun value => covers_pure (f value)) ?_
  rintro _ _ ⟨_, _, _, rfl, ⟨left, c, rfl, accepted⟩, rfl, _⟩
  exact ⟨left, c, List.append_nil _, accepted⟩

theorem ends_or (left : EndsWith accepts reader) (right : EndsWith accepts other) :
    EndsWith accepts (orElse reader other) :=
  covers_mono (covers_or left right) fun _ _ => Or.rec id id

end Endings

end PatternInspector.Text.Reader
