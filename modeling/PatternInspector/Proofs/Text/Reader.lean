import PatternInspector.Proofs.Text.Basic
import PatternInspector.Text.Reader

/-!
What a reader takes first. `Reads` says that the preferred way to read passes over exactly one part
of the text; `Skips` allows other ways before it and says what they have in common, so that a reader
that prefers short matches can be followed by one that refuses them; `Fails` says that there is no
way at all. Each combinator has its rule, and a pattern's proof follows the shape of the pattern.
-/
namespace PatternInspector.Text

def beforeEnd : Option Char → Text → Option Char
  | before, [] => before
  | _, c :: rest => beforeEnd (some c) rest

@[simp] theorem before_end_nil (before : Option Char) : beforeEnd before [] = before := rfl

@[simp] theorem before_end_cons (before : Option Char) (c : Char) (rest : Text) :
    beforeEnd before (c :: rest) = beforeEnd (some c) rest := rfl

@[simp] theorem before_end_append (before : Option Char) (left right : Text) :
    beforeEnd before (left ++ right) = beforeEnd (beforeEnd before left) right := by
  induction left generalizing before with
  | nil => rfl
  | cons c left ih => exact ih (some c)

theorem before_end_last (before : Option Char) (text : Text) :
    beforeEnd before text = text.getLast?.or before := by
  induction text generalizing before with
  | nil => rfl
  | cons c text ih =>
      rw [before_end_cons, ih, List.getLast?_cons]
      cases text.getLast? <;> rfl

def Cursor.behind (position : Nat) (before : Option Char) (read rest : Text) : Cursor :=
  ⟨position + read.length, beforeEnd before read, rest⟩

theorem Cursor.behind_append (position : Nat) (before : Option Char) (read more rest : Text) :
    Cursor.behind position before (read ++ more) rest =
      Cursor.behind (position + read.length) (beforeEnd before read) more rest := by
  simp [Cursor.behind, Nat.add_assoc]

namespace Reader

variable {α β : Type}

section Judgements

/-- Before `rest`, the preferred way to read passes over `read` and gives `value`. -/
def Reads (reader : Reader α) (before : Option Char) (read rest : Text) (value : α) : Prop :=
  ∀ position, reader.first? ⟨position, before, read ++ rest⟩ =
    some (value, Cursor.behind position before read rest)

/-- As `Reads`, but after other ways to read, all of which stop before a text that is `unfit`. -/
def Skips (reader : Reader α) (before : Option Char) (read rest : Text) (value : α)
    (unfit : Text → Prop) : Prop :=
  ∀ position, ∃ earlier later, reader ⟨position, before, read ++ rest⟩ =
    earlier ++ (value, Cursor.behind position before read rest) :: later ∧
    ∀ way ∈ earlier, unfit way.2.rest

def Fails (reader : Reader α) (text : Text) : Prop :=
  ∀ position before, reader ⟨position, before, text⟩ = []

variable {reader : Reader α} {before : Option Char} {read more rest : Text} {value : α}

theorem skips_of_reads (reads : Reads reader before read rest value)
    (unfit : Text → Prop) : Skips reader before read rest value unfit := by
  intro position
  obtain ⟨later, ways⟩ := List.head?_eq_some_iff.mp (reads position)
  exact ⟨[], later, ways, by simp⟩

theorem reads_of_skips (skips : Skips reader before read rest value fun _ => False) :
    Reads reader before read rest value := by
  intro position
  obtain ⟨earlier, later, ways, unfits⟩ := skips position
  have none : earlier = [] := List.eq_nil_iff_forall_not_mem.mpr unfits
  simp [first?, ways, none]

theorem fails_first (fails : Fails reader rest) (position : Nat) (before : Option Char) :
    reader.first? ⟨position, before, rest⟩ = none := by
  simp [first?, fails position before]

end Judgements

section Composition

variable {reader other : Reader α} {next : α → Reader β} {before : Option Char}
  {read more rest : Text} {value : α} {result : β}

theorem reads_pure (value : α) : Reads (pure value) before [] rest value := fun _ => rfl

theorem skips_bind (unfit : Text → Prop)
    (first : Skips reader before read (more ++ rest) value unfit)
    (refused : ∀ value text, unfit text → Fails (next value) text)
    (second : Reads (next value) (beforeEnd before read) more rest result) :
    Reads (reader >>= next) before (read ++ more) rest result := by
  intro position
  obtain ⟨earlier, later, ways, unfits⟩ := first position
  have none : earlier.flatMap (fun way => next way.1 way.2) = [] :=
    List.flatMap_eq_nil_iff.mpr fun way member =>
      refused way.1 way.2.rest (unfits way member) way.2.position way.2.before
  have here := second (position + read.length)
  rw [← Cursor.behind_append, first?] at here
  change ((reader ⟨position, before, read ++ more ++ rest⟩).flatMap
    fun way => next way.1 way.2).head? = _
  rw [List.append_assoc, ways, List.flatMap_append, none, List.nil_append, List.flatMap_cons,
    List.head?_append]
  exact congrArg (Option.or · _) here

theorem reads_bind (first : Reads reader before read (more ++ rest) value)
    (second : Reads (next value) (beforeEnd before read) more rest result) :
    Reads (reader >>= next) before (read ++ more) rest result :=
  skips_bind (fun _ => False) (skips_of_reads first _) (fun _ _ absurd => absurd.elim) second

theorem skips_after (unfit : Text → Prop)
    (first : Reads reader before read (more ++ rest) value)
    (second : Skips (next value) (beforeEnd before read) more rest result unfit) :
    Skips (reader >>= next) before (read ++ more) rest result unfit := by
  intro position
  obtain ⟨others, ways⟩ := List.head?_eq_some_iff.mp (first position)
  obtain ⟨earlier, later, found, unfits⟩ := second (position + read.length)
  rw [← Cursor.behind_append] at found
  refine ⟨earlier, later ++ others.flatMap (fun way => next way.1 way.2), ?_, unfits⟩
  change (reader ⟨position, before, read ++ more ++ rest⟩).flatMap _ = _
  rw [List.append_assoc, ways, List.flatMap_cons]
  change next value ⟨_, _, more ++ rest⟩ ++ _ = _
  rw [found]
  simp

theorem fails_bind (fails : Fails reader rest) (next : α → Reader β) :
    Fails (reader >>= next) rest := by
  intro position before
  change (reader ⟨position, before, rest⟩).flatMap _ = []
  rw [fails position before, List.flatMap_nil]

theorem fails_after (refused : ∀ position before, ∀ way ∈ reader ⟨position, before, rest⟩,
    next way.1 way.2 = []) : Fails (reader >>= next) rest :=
  fun position before => List.flatMap_eq_nil_iff.mpr (refused position before)

theorem reads_or_left (reads : Reads reader before read rest value) (other : Reader α) :
    Reads (orElse reader other) before read rest value := by
  intro position
  change (reader _ ++ other _).head? = _
  rw [List.head?_append]
  exact congrArg (Option.or · _) (reads position)

theorem reads_or_right (fails : Fails reader (read ++ rest))
    (reads : Reads other before read rest value) :
    Reads (orElse reader other) before read rest value := by
  intro position
  change (reader _ ++ other _).head? = _
  rw [fails position before, List.nil_append]
  exact reads position

theorem fails_or (left : Fails reader rest) (right : Fails other rest) :
    Fails (orElse reader other) rest := by
  intro position before
  change reader _ ++ other _ = []
  rw [left position before, right position before, List.append_nil]

-- A reader that only changes what another one returns has the same ways to read.
theorem skips_image {other : Reader β} {unfit : Text → Prop}
    (skips : Skips reader before read rest value unfit) (image : Nat → α × Cursor → β)
    (same : ∀ position, other ⟨position, before, read ++ rest⟩ =
      (reader ⟨position, before, read ++ rest⟩).map fun way => (image position way, way.2))
    (given : ∀ position, image position (value, Cursor.behind position before read rest) = result) :
    Skips other before read rest result unfit := by
  intro position
  obtain ⟨earlier, later, ways, unfits⟩ := skips position
  refine ⟨earlier.map fun way => (image position way, way.2),
    later.map fun way => (image position way, way.2), ?_, ?_⟩
  · rw [same, ways, List.map_append, List.map_cons, given]
  · intro way member
    obtain ⟨origin, present, rfl⟩ := List.mem_map.mp member
    exact unfits origin present

theorem skips_then_pure {unfit : Text → Prop} (skips : Skips reader before read rest value unfit)
    (f : α → β) :
    Skips (reader >>= fun value => pure (f value)) before read rest (f value) unfit := by
  refine skips_image skips (fun _ way => f way.1) (fun position => ?_) (fun _ => rfl)
  exact List.map_eq_flatMap.symm

theorem reads_then_pure (reads : Reads reader before read rest value) (f : α → β) :
    Reads (reader >>= fun value => pure (f value)) before read rest (f value) :=
  reads_of_skips (skips_then_pure (skips_of_reads reads _) f)

theorem reads_optional_some (reads : Reads reader before read rest value) :
    Reads (optional reader) before read rest (some value) :=
  reads_or_left (reads_then_pure reads some) _

theorem reads_optional_none (fails : Fails reader rest) :
    Reads (optional reader) before [] rest none :=
  reads_or_right (fails_bind fails _) (reads_pure _)

theorem skips_optional {unfit : Text → Prop} (skips : Skips reader before read rest value unfit) :
    Skips (optional reader) before read rest (some value) unfit := by
  intro position
  obtain ⟨earlier, later, ways, unfits⟩ := skips_then_pure skips some position
  refine ⟨earlier, later ++ [(none, ⟨position, before, read ++ rest⟩)], ?_, unfits⟩
  change _ ++ [(none, _)] = _
  rw [ways]
  simp

theorem skips_matched {unfit : Text → Prop}
    (skips : Skips reader before read rest value unfit) :
    Skips (matched reader) before read rest read unfit := by
  refine skips_image skips
    (fun position way => (read ++ rest).take (way.2.position - position)) (fun _ => rfl)
    fun position => ?_
  simp [Cursor.behind]

theorem reads_matched (reads : Reads reader before read rest value) :
    Reads (matched reader) before read rest read :=
  reads_of_skips (skips_matched (skips_of_reads reads _))

theorem fails_matched (fails : Fails reader rest) : Fails (matched reader) rest := by
  intro position before
  simp [matched, fails position before]

end Composition

section Characters

variable {accepts : Char → Bool} {before : Option Char} {read rest : Text}

theorem reads_char {c : Char} (accepted : accepts c = true) :
    Reads (char accepts) before [c] rest c := by
  intro position
  simp [first?, char, accepted, Cursor.next, Cursor.behind]

theorem fails_char (avoids : Avoids accepts rest) : Fails (char accepts) rest := by
  intro position before
  cases rest with
  | nil => rfl
  | cons c rest => simp [char, avoids c rfl]

theorem reads_single (c : Char) : Reads (single c) before [c] rest () :=
  reads_then_pure (reads_char (beq_self_eq_true c)) fun _ => ()

theorem fails_single {c : Char} (avoids : Avoids (· == c) rest) : Fails (single c) rest :=
  fails_bind (fails_char avoids) _

theorem reads_chars (text : Text) : Reads (chars text) before text rest () := by
  induction text generalizing before with
  | nil => exact reads_pure ()
  | cons c text ih => exact reads_bind (reads_single c) ih

theorem reads_word (word' : String) : Reads (word word') before word'.toList rest () :=
  reads_chars word'.toList

-- The places that can be reached inside the accepted part come before those behind it.
theorem reachable_split (inside : ∀ c ∈ read, accepts c = true) (position : Nat)
    (before : Option Char) (rest : Text) :
    ∃ earlier, reachable accepts position before (read ++ rest) =
      earlier ++ reachable accepts (position + read.length) (beforeEnd before read) rest ∧
      ∀ place ∈ earlier, ∃ left right, read = left ++ right ∧ right ≠ [] ∧
        place.rest = right ++ rest := by
  induction read generalizing position before with
  | nil => exact ⟨[], rfl, by simp⟩
  | cons c read ih =>
      obtain ⟨earlier, split, places⟩ :=
        ih (fun d member => inside d (List.mem_cons_of_mem c member)) (position + 1) (some c)
      refine ⟨⟨position, before, c :: (read ++ rest)⟩ :: earlier, ?_, ?_⟩
      · simp only [List.cons_append, reachable, inside c (by simp), if_true, split]
        rw [List.length_cons, before_end_cons, Nat.add_assoc, Nat.add_comm 1]
      · intro place member
        rcases List.mem_cons.mp member with rfl | member
        · exact ⟨[], c :: read, rfl, by simp, rfl⟩
        · obtain ⟨left, right, same, some, rest⟩ := places place member
          exact ⟨c :: left, right, by simp [same], some, rest⟩

theorem reachable_here (accepts : Char → Bool) (position : Nat) (before : Option Char)
    (rest : Text) :
    ∃ others, reachable accepts position before rest = ⟨position, before, rest⟩ :: others := by
  cases rest with
  | nil => exact ⟨[], rfl⟩
  | cons c rest => exact ⟨_, rfl⟩

theorem reachable_only (avoids : Avoids accepts rest) (position : Nat) :
    reachable accepts position before rest = [⟨position, before, rest⟩] := by
  cases rest with
  | nil => rfl
  | cons c rest => simp [reachable, avoids c rfl]

theorem reads_many (inside : ∀ c ∈ read, accepts c = true) (avoids : Avoids accepts rest) :
    Reads (many accepts) before read rest () := by
  intro position
  obtain ⟨earlier, split, _⟩ := reachable_split inside position before rest
  simp only [first?, many]
  rw [split, reachable_only avoids]
  simp [Cursor.behind]

def Within (read rest text : Text) : Prop :=
  ∃ left right, read = left ++ right ∧ right ≠ [] ∧ text = right ++ rest

theorem within_last {left text : Text} {c : Char} (within : Within (left ++ [c]) rest text) :
    ∃ right, text = right ++ [c] ++ rest ∧ right <:+ left := by
  obtain ⟨passed, right, split, nonempty, rfl⟩ := within
  obtain ⟨inner, last, rfl⟩ := (List.eq_nil_or_concat right).resolve_left nonempty
  rw [List.concat_eq_append, ← List.append_assoc] at split
  obtain ⟨shape, same⟩ := List.append_inj' split rfl
  obtain rfl : c = last := by simpa using same
  exact ⟨inner, by simp, passed, shape.symm⟩

theorem skips_few (inside : ∀ c ∈ read, accepts c = true) :
    Skips (few accepts) before read rest () (Within read rest) := by
  intro position
  obtain ⟨earlier, split, places⟩ := reachable_split inside position before rest
  obtain ⟨others, here⟩ := reachable_here accepts (position + read.length) (beforeEnd before read) rest
  refine ⟨earlier.map fun place => ((), place), others.map fun place => ((), place), ?_, ?_⟩
  · simp only [few]
    rw [split, here]
    simp [Cursor.behind]
  · intro way member
    obtain ⟨place, present, rfl⟩ := List.mem_map.mp member
    exact places place present

theorem reads_few_none : Reads (few accepts) before [] rest () := by
  intro position
  obtain ⟨others, here⟩ := reachable_here accepts position before rest
  simp [first?, few, here, Cursor.behind]

theorem reads_many1 {c : Char} (first : accepts c = true) (inside : ∀ d ∈ read, accepts d = true)
    (avoids : Avoids accepts rest) : Reads (many1 accepts) before (c :: read) rest () :=
  reads_bind (reads_char first) (reads_many inside avoids)

theorem fails_many1 (avoids : Avoids accepts rest) : Fails (many1 accepts) rest :=
  fails_bind (fails_char avoids) _

theorem reads_blanks (blank : ∀ c ∈ read, isBlank c = true) (avoids : Avoids isBlank rest) :
    Reads blanks before read rest () :=
  reads_many blank avoids

theorem reads_name {c : Char} (first : isNameStart c = true)
    (inside : ∀ d ∈ read, isNamePart d = true) (avoids : Avoids isNamePart rest) :
    Reads name before (c :: read) rest () :=
  reads_bind (reads_char first) (reads_many inside avoids)

theorem reads_repeated_none {reader : Reader Unit} (fails : Fails reader rest) (limit : Nat) :
    Reads (repeated reader limit) before [] rest () := by
  cases limit with
  | zero => exact reads_pure ()
  | succ limit => exact reads_or_right (fails_bind fails _) (reads_pure ())

theorem reads_provided {holds : Cursor → Bool}
    (fits : ∀ position, holds ⟨position, before, rest⟩ = true) :
    Reads (provided holds) before [] rest () := by
  intro position
  simp [first?, provided, fits, Cursor.behind]

theorem reads_at_end : Reads atEnd before [] [] () := fun _ => rfl

end Characters

end Reader

end PatternInspector.Text
