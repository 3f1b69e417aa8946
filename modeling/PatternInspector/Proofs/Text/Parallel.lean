import Mathlib.Data.List.Forall2
import PatternInspector.Proofs.Text.Search

/-!
Two runs of a reader side by side. `Parallel` says that from paired places two readers go on to
paired places, way by way and in the same order; each combinator has its rule. A reader that stops
at a mark runs in the same way on all texts that agree up to the mark (`Bounded`), so that what a
repeated search finds before a mark does not depend on what follows.
-/
namespace PatternInspector.Text.Reader

section Pairs

variable {α β : Type}

/-- From paired places the two readers go on in the same order to paired places, with related
values. -/
def Parallel (start stop : Cursor → Cursor → Prop) (same : α → α → Prop)
    (reader reader' : Reader α) : Prop :=
  ∀ cursor cursor', start cursor cursor' →
    List.Forall₂ (fun way way' => same way.1 way'.1 ∧ stop way.2 way'.2)
      (reader cursor) (reader' cursor')

def Steps (accepts : Char → Bool) (start stop : Cursor → Cursor → Prop) : Prop :=
  ∀ cursor cursor', start cursor cursor' →
    cursor.rest.head?.any accepts = cursor'.rest.head?.any accepts ∧
      (cursor.rest.head?.any accepts = true → stop cursor.next cursor'.next)

variable {start middle stop : Cursor → Cursor → Prop} {same : α → α → Prop}
  {reader reader' other other' : Reader α}

theorem parallel_first (parallel : Parallel start stop same reader reader')
    {cursor cursor' : Cursor} (here : start cursor cursor') :
    (reader.first? cursor = none ∧ reader'.first? cursor' = none) ∨
      ∃ way way', reader.first? cursor = some way ∧ reader'.first? cursor' = some way' ∧
        same way.1 way'.1 ∧ stop way.2 way'.2 := by
  have ways := parallel cursor cursor' here
  unfold first?
  generalize reader cursor = found at ways
  generalize reader' cursor' = found' at ways
  cases ways with
  | nil => exact Or.inl ⟨rfl, rfl⟩
  | cons related _ => exact Or.inr ⟨_, _, rfl, rfl, related⟩

theorem parallel_pure {value value' : α} (related : same value value') :
    Parallel start start same (pure value) (pure value') :=
  fun _ _ here => .cons ⟨related, here⟩ .nil

theorem parallel_bind {same' : β → β → Prop} {next next' : α → Reader β}
    (first : Parallel start middle same reader reader')
    (second : ∀ value value', same value value' →
      Parallel middle stop same' (next value) (next' value')) :
    Parallel start stop same' (reader >>= next) (reader' >>= next') :=
  fun cursor cursor' here => List.rel_flatMap (first cursor cursor' here)
    fun way way' related => second way.1 way'.1 related.1 way.2 way'.2 related.2

theorem parallel_or (left : Parallel start stop same reader reader')
    (right : Parallel start stop same other other') :
    Parallel start stop same (orElse reader other) (orElse reader' other') :=
  fun cursor cursor' here => List.rel_append (left cursor cursor' here) (right cursor cursor' here)

theorem parallel_optional {same' : Option α → Option α → Prop}
    (parallel : Parallel start start same reader reader')
    (present : ∀ value value', same value value' → same' (some value) (some value'))
    (absent : same' none none) :
    Parallel start start same' (optional reader) (optional reader') :=
  parallel_or (parallel_bind parallel fun value value' related =>
    parallel_pure (present value value' related)) (parallel_pure absent)

theorem parallel_matched {texts : Text → Text → Prop}
    (parallel : Parallel start stop same reader reader')
    (passed : ∀ cursor cursor' place place', start cursor cursor' → stop place place' →
      texts (cursor.rest.take (place.position - cursor.position))
        (cursor'.rest.take (place'.position - cursor'.position))) :
    Parallel start stop texts (matched reader) (matched reader') :=
  fun cursor cursor' here => List.rel_map
    (fun way way' related => ⟨passed cursor cursor' way.2 way'.2 here related.2, related.2⟩)
    (parallel cursor cursor' here)

theorem parallel_provided {holds : Cursor → Bool}
    (agree : ∀ cursor cursor', start cursor cursor' → holds cursor = holds cursor') :
    Parallel start start Eq (provided holds) (provided holds) := by
  intro cursor cursor' here
  unfold provided
  rw [agree cursor cursor' here]
  split
  next => exact .cons ⟨rfl, here⟩ .nil
  next => exact .nil

end Pairs

section Characters

variable {start stop : Cursor → Cursor → Prop} {accepts : Char → Bool}

theorem char_any (accepts : Char → Bool) (cursor : Cursor) :
    (char accepts cursor).map Prod.snd =
      if cursor.rest.head?.any accepts then [cursor.next] else [] := by
  obtain ⟨position, before, rest⟩ := cursor
  cases rest with
  | nil => rfl
  | cons c rest => cases accepted : accepts c <;> simp [char, accepted]

theorem parallel_char (steps : Steps accepts start stop) :
    Parallel start stop (fun _ _ => True) (char accepts) (char accepts) := by
  intro cursor cursor' here
  obtain ⟨agree, onward⟩ := steps cursor cursor' here
  have places : List.Forall₂ stop ((char accepts cursor).map Prod.snd)
      ((char accepts cursor').map Prod.snd) := by
    rw [char_any, char_any, ← agree]
    split
    next follows => exact .cons (onward follows) .nil
    next => exact .nil
  rw [List.forall₂_map_left_iff, List.forall₂_map_right_iff] at places
  exact places.imp fun _ _ related => ⟨trivial, related⟩

theorem parallel_single {c : Char} (steps : Steps (· == c) start stop) :
    Parallel start stop Eq (single c) (single c) :=
  parallel_bind (parallel_char steps) fun _ _ _ => parallel_pure rfl

theorem parallel_chars {text : Text} (steps : ∀ c ∈ text, Steps (· == c) start start) :
    Parallel start start Eq (chars text) (chars text) := by
  induction text with
  | nil => exact parallel_pure rfl
  | cons c text ih =>
      refine parallel_bind (parallel_single (steps c (by simp))) ?_
      exact fun _ _ _ => ih fun d member => steps d (by simp [member])

theorem reachable_next (accepts : Char → Bool) (cursor : Cursor) :
    reachable accepts cursor.position cursor.before cursor.rest =
      cursor :: if cursor.rest.head?.any accepts then
        reachable accepts cursor.next.position cursor.next.before cursor.next.rest else [] := by
  obtain ⟨position, before, rest⟩ := cursor
  cases rest with
  | nil => rfl
  | cons c rest => rfl

theorem parallel_reachable (steps : Steps accepts start start) {cursor cursor' : Cursor}
    (here : start cursor cursor') :
    List.Forall₂ start (reachable accepts cursor.position cursor.before cursor.rest)
      (reachable accepts cursor'.position cursor'.before cursor'.rest) := by
  induction size : cursor.rest.length generalizing cursor cursor' with
  | zero =>
      obtain ⟨agree, _⟩ := steps cursor cursor' here
      rw [List.eq_nil_of_length_eq_zero size] at agree
      rw [reachable_next accepts cursor, reachable_next accepts cursor', ← agree,
        List.eq_nil_of_length_eq_zero size]
      exact .cons here .nil
  | succ left ih =>
      obtain ⟨agree, onward⟩ := steps cursor cursor' here
      have shorter : cursor.next.rest.length = left := by
        obtain ⟨position, before, rest⟩ := cursor
        cases rest with
        | nil => simp at size
        | cons c rest => simpa [Cursor.next] using size
      rw [reachable_next accepts cursor, reachable_next accepts cursor', ← agree]
      refine .cons here ?_
      split
      next follows => exact ih (onward follows) shorter
      next => exact .nil

theorem parallel_few (steps : Steps accepts start start) :
    Parallel start start Eq (few accepts) (few accepts) :=
  fun _ _ here => List.rel_map (fun _ _ related => ⟨rfl, related⟩) (parallel_reachable steps here)

theorem parallel_many (steps : Steps accepts start start) :
    Parallel start start Eq (many accepts) (many accepts) :=
  fun _ _ here => List.rel_map (fun _ _ related => ⟨rfl, related⟩)
    (List.rel_reverse (parallel_reachable steps here))

theorem parallel_many1 (steps : Steps accepts start start) :
    Parallel start start Eq (many1 accepts) (many1 accepts) :=
  parallel_bind (parallel_char steps) fun _ _ _ => parallel_many steps

end Characters

section Marks

variable {mark : Char} {stop : Nat} {rest rest' : Text} {accepts : Char → Bool}

/-- Two places before the same next mark, at position `stop`, behind which the texts differ. -/
inductive Ahead (mark : Char) (stop : Nat) (rest rest' : Text) : Cursor → Cursor → Prop
  | intro (position : Nat) (before before' : Option Char) (left : Text) (inside : mark ∉ left)
      (reach : position + left.length = stop) :
      Ahead mark stop rest rest' ⟨position, before, left ++ mark :: rest⟩
        ⟨position, before', left ++ mark :: rest'⟩

inductive Past (mark : Char) (stop : Nat) (rest rest' : Text) : Cursor → Cursor → Prop
  | intro : Past mark stop rest rest' ⟨stop + 1, some mark, rest⟩ ⟨stop + 1, some mark, rest'⟩

theorem ahead_head {cursor cursor' : Cursor} (ahead : Ahead mark stop rest rest' cursor cursor') :
    cursor.rest.head? = cursor'.rest.head? := by
  obtain ⟨position, before, before', left, inside, reach⟩ := ahead
  cases left <;> rfl

theorem steps_ahead (refused : accepts mark = false) :
    Steps accepts (Ahead mark stop rest rest') (Ahead mark stop rest rest') := by
  intro cursor cursor' ahead
  refine ⟨by rw [ahead_head ahead], fun follows => ?_⟩
  obtain ⟨position, before, before', left, inside, reach⟩ := ahead
  cases left with
  | nil => simp [refused] at follows
  | cons c left =>
      refine .intro (position + 1) (some c) (some c) left (fun member => inside ?_) ?_
      · exact List.mem_cons_of_mem c member
      · rw [← reach, List.length_cons]
        omega

theorem steps_mark : Steps (· == mark) (Ahead mark stop rest rest') (Past mark stop rest rest') := by
  intro cursor cursor' ahead
  refine ⟨by rw [ahead_head ahead], fun follows => ?_⟩
  obtain ⟨position, before, before', left, inside, reach⟩ := ahead
  cases left with
  | nil =>
      obtain rfl : position = stop := reach
      exact .intro
  | cons c left =>
      obtain rfl : c = mark := by simpa using follows
      exact absurd List.mem_cons_self inside

theorem ahead_passed {cursor cursor' place place' : Cursor}
    (ahead : Ahead mark stop rest rest' cursor cursor')
    (ahead' : Ahead mark stop rest rest' place place') :
    cursor.rest.take (place.position - cursor.position) =
      cursor'.rest.take (place'.position - cursor'.position) := by
  obtain ⟨position, before, before', left, inside, reach⟩ := ahead
  obtain ⟨later, _, _, left', _, reach'⟩ := ahead'
  have short : later - position ≤ left.length := by omega
  dsimp only
  rw [List.take_append_of_le_length short, List.take_append_of_le_length short]

end Marks

section Bounded

variable {α : Type} {mark : Char} {reader : Reader α}

/-- A match ends with the next mark, and what is read depends on nothing behind it. -/
structure Bounded (mark : Char) (reader : Reader α) : Prop where
  ends : EndsWith (· == mark) reader
  steady : ∀ position front, mark ∉ front → ∃ outcome : Option α, ∀ before rest,
    reader.first? ⟨position, before, front ++ mark :: rest⟩ =
      outcome.map fun value => (value, ⟨position + front.length + 1, some mark, rest⟩)

theorem bounded_of_parallel (ends : EndsWith (· == mark) reader)
    (parallel : ∀ stop rest rest',
      Parallel (Ahead mark stop rest rest') (Past mark stop rest rest') Eq reader reader) :
    Bounded mark reader := by
  refine ⟨ends, fun position front inside => ?_⟩
  refine ⟨(reader.first? ⟨position, none, front ++ [mark]⟩).map Prod.fst, fun before rest => ?_⟩
  have pair : Ahead mark (position + front.length) rest [] ⟨position, before, front ++ mark :: rest⟩
      ⟨position, none, front ++ [mark]⟩ := .intro position before none front inside rfl
  rcases parallel_first (parallel _ rest []) pair with
    ⟨none, none'⟩ | ⟨way, way', first, first', same, past⟩
  · rw [none, none']
    rfl
  · rw [first, first']
    obtain ⟨value, place⟩ := way
    obtain ⟨value', place'⟩ := way'
    obtain rfl : value = value' := same
    cases past
    rfl

theorem bounded_fails (bounded : Bounded mark reader) {text : Text} (absent : mark ∉ text) :
    Fails reader text := by
  refine fails_of_covers bounded.ends ?_
  rintro _ after _ rfl ⟨left, c, rfl, marked⟩
  obtain rfl : c = mark := by simpa using marked
  simp at absent

-- The first mark of a text that ends with one.
theorem first_mark (mark : Char) (front : Text) :
    ∃ near far, front ++ [mark] = near ++ mark :: far ∧ mark ∉ near :=
  List.eq_append_cons_of_mem (by simp)

/-- The preferred way to read is the same before every other text. -/
theorem first_kept (bounded : Bounded mark reader) {position : Nat} {before : Option Char}
    {text : Text} {value : α} {after : Cursor}
    (first : reader.first? ⟨position, before, text⟩ = some (value, after)) :
    ∃ read, text = read ++ after.rest ∧ after.position = position + read.length ∧
      ∀ rest, reader.first? ⟨position, before, read ++ rest⟩ =
        some (value, Cursor.behind position before read rest) := by
  obtain ⟨read, ⟨left, c, rfl, marked⟩, split, place⟩ :=
    bounded.ends _ _ (List.mem_of_head? first)
  obtain rfl : c = mark := by simpa using marked
  obtain ⟨near, far, shape, inside⟩ := first_mark c left
  obtain ⟨outcome, steady⟩ := bounded.steady position near inside
  have whole : text = near ++ c :: (far ++ after.rest) := by
    have joined := congrArg (· ++ after.rest) shape
    simpa [show text = _ from split] using joined
  rw [whole, steady] at first
  obtain ⟨_, rfl, same⟩ := Option.map_eq_some_iff.mp first
  obtain ⟨rfl, here⟩ := Prod.mk.inj same
  -- The match ends at the nearest mark, so nothing of it is left behind that mark.
  have nothing : far ++ after.rest = after.rest := congrArg Cursor.rest here
  obtain rfl : far = [] := List.append_left_eq_self.mp nothing
  refine ⟨left ++ [c], split, congrArg Cursor.position place, fun rest => ?_⟩
  rw [shape, List.append_assoc, List.singleton_append, steady]
  simp [Cursor.behind, Nat.add_assoc]

theorem first_none_before (bounded : Bounded mark reader) {position : Nat} {before : Option Char}
    {text more : Text} (refused : reader.first? ⟨position, before, text ++ more⟩ = none) :
    reader.first? ⟨position, before, text⟩ = none := by
  cases shorter : reader.first? ⟨position, before, text⟩ with
  | none => rfl
  | some way =>
      obtain ⟨read, split, -, kept⟩ := first_kept bounded shorter
      rw [split, List.append_assoc, kept] at refused
      cases refused

/-- What a repeated search finds up to a mark does not depend on what follows, and the search goes on
right behind the mark. -/
theorem search_all_cut (bounded : Bounded mark reader) (position : Nat) (before : Option Char)
    {skip : Nat} {front : Text} (short : skip ≤ front.length + 1) :
    ∃ own : List (Found α), ∀ rest, searchAll reader position before skip (front ++ mark :: rest) =
      own ++ searchAll reader (position + front.length + 1) (some mark) 0 rest := by
  induction front generalizing position before skip with
  | nil =>
      cases skip with
      | succ left =>
          obtain rfl : left = 0 := by simpa using short
          exact ⟨[], fun rest => rfl⟩
      | zero =>
          obtain ⟨outcome, steady⟩ := bounded.steady position [] (by simp)
          simp only [List.nil_append] at steady ⊢
          cases outcome with
          | none => exact ⟨[], fun rest => by simp [searchAll, steady]⟩
          | some value =>
              refine ⟨[⟨value, position, position + 1⟩], fun rest => ?_⟩
              simp [searchAll, steady]
  | cons c front ih =>
      have onward : position + (c :: front).length + 1 = position + 1 + front.length + 1 := by
        rw [List.length_cons]
        omega
      cases skip with
      | succ left =>
          have short' : left ≤ front.length + 1 := by simpa using short
          obtain ⟨own, cut⟩ := ih (position + 1) (some c) short'
          exact ⟨own, fun rest => onward ▸ cut rest⟩
      | zero =>
          obtain ⟨near, far, split, inside⟩ := first_mark mark (c :: front)
          obtain ⟨outcome, steady⟩ := bounded.steady position near inside
          have text : ∀ rest, c :: (front ++ mark :: rest) = near ++ mark :: (far ++ rest) := by
            intro rest
            have joined := congrArg (· ++ rest) split
            simpa using joined
          have first : ∀ rest, reader.first? ⟨position, before, c :: (front ++ mark :: rest)⟩ = _ :=
            fun rest => text rest ▸ steady before (far ++ rest)
          cases outcome with
          | none =>
              obtain ⟨own, cut⟩ := ih (position + 1) (some c) (Nat.zero_le _)
              refine ⟨own, fun rest => ?_⟩
              rw [List.cons_append, searchAll, first rest, onward]
              exact cut rest
          | some value =>
              have reach : position + near.length + 1 - position - 1 ≤ front.length + 1 := by
                have size := congrArg List.length split
                simp at size
                omega
              obtain ⟨own, cut⟩ := ih (position + 1) (some c) reach
              refine ⟨⟨value, position, position + near.length + 1⟩ :: own, fun rest => ?_⟩
              rw [List.cons_append, searchAll, first rest, onward]
              exact congrArg (_ :: ·) (cut rest)

/-- A match and those before it are found again in every text that starts in the same way up to the
end of the match. -/
theorem find_all_cut (bounded : Bounded mark reader) {text : Text} {earlier later : List (Found α)}
    {found : Found α} (all : findAll reader text = earlier ++ found :: later) (more : Text) :
    ∃ later', findAll reader (text.take found.stop ++ more) = earlier ++ found :: later' := by
  have member : found ∈ findAll reader text := by simp [all]
  obtain ⟨left, _, right, rfl, ⟨inner, c, rfl, marked⟩, start, stop⟩ :=
    find_all_found bounded.ends member
  obtain rfl : c = mark := by simpa using marked
  have shape : left ++ (inner ++ [c] ++ right) = (left ++ inner) ++ c :: right := by simp
  have reach : found.stop = (left ++ inner ++ [c]).length := by
    rw [stop, start, Nat.zero_add, ← List.length_append, List.append_assoc]
  obtain ⟨own, cut⟩ := search_all_cut bounded 0 none (Nat.zero_le ((left ++ inner).length + 1))
  rw [shape, findAll, cut] at all
  -- The search that goes on behind the mark cannot have found it: its matches start there.
  have apart : found ∉ searchAll reader (0 + (left ++ inner).length + 1) (some c) 0 right := by
    intro behind
    obtain ⟨passed, _, _, _, _, start', _⟩ := search_all_found bounded.ends behind
    rw [start, List.length_append] at start'
    omega
  obtain ⟨others, rfl⟩ : ∃ others, own = earlier ++ found :: others := by
    rcases List.append_eq_append_iff.mp all with ⟨between, -, split⟩ | ⟨between, same, split⟩
    · rw [split] at apart
      simp at apart
    · cases between with
      | nil =>
          rw [← List.nil_append (searchAll _ _ _ _ _), ← split] at apart
          simp at apart
      | cons first others =>
          obtain ⟨rfl, -⟩ := List.cons.inj split
          exact ⟨others, same⟩
  refine ⟨others ++ searchAll reader (0 + (left ++ inner).length + 1) (some c) 0 more, ?_⟩
  have taken : (left ++ (inner ++ [c] ++ right)).take found.stop = left ++ inner ++ [c] := by
    rw [reach, ← List.append_assoc, ← List.append_assoc, List.take_left]
  rw [taken, List.append_assoc, List.singleton_append, findAll, cut]
  simp

theorem search_from_head (fails : Fails reader []) (position : Nat) (before : Option Char)
    (text : Text) : (searchFrom reader position before text).map (·.1) =
      (searchAll reader position before 0 text).head? := by
  induction text generalizing position before with
  | nil => simp [searchFrom, fails_first fails, searchAll]
  | cons c text ih =>
      rw [searchFrom, searchAll]
      split
      next => rfl
      next => exact ih (position + 1) (some c)

theorem search_head (bounded : Bounded mark reader) (text : Text) :
    search reader text = (findAll reader text).head? :=
  search_from_head (bounded_fails bounded (by simp)) 0 none text

end Bounded

end PatternInspector.Text.Reader
