import PatternInspector.Component.Extract
import PatternInspector.Proofs.Literal.Nesting
import PatternInspector.Proofs.Literal.Rendering
import PatternInspector.Proofs.Text.Search

/-!
Arrays of names as they are written: string literals, and between them commas, white space and
comments. The names of an array are looked for as quoted texts, wherever they stand. Behind a name the
next one is found if nothing before it looks like a quoted text, so comments do no harm as long as they
hold no such text and no quote that pairs with the next name. Properties and events that are declared
by an array are its names then.
-/
namespace PatternInspector.Literal

open PatternInspector.Text.Reader

section Pairs

variable {quote : Char} {body read passed rest : Text} {before : Option Char}

structure QuotedPair (read body : Text) : Prop where
  quoted : ∃ quote, Text.isQuote quote = true ∧ read = quote :: (body ++ [quote])
  nonempty : body ≠ []
  plain : ∀ c ∈ body, Text.isQuote c = false

theorem reads_pair (pair : QuotedPair read body) : Reads quotedItem before read rest body := by
  obtain ⟨⟨quote, mark, rfl⟩, nonempty, plain⟩ := pair
  obtain ⟨c, more, rfl⟩ := List.exists_cons_of_ne_nil nonempty
  have outside : ∀ d ∈ c :: more, (!Text.isQuote d) = true := by
    intro d member
    rw [plain d member]
    rfl
  have stop : Text.Avoids (fun d => !Text.isQuote d) ([quote] ++ rest) :=
    Text.avoids_cons (by rw [mark]; rfl) rest
  change Reads quotedItem before ([quote] ++ (c :: more ++ [quote])) rest (c :: more)
  refine reads_bind (reads_char mark) ?_
  refine reads_bind (reads_matched (reads_many1 (outside c (by simp)) ?_ stop)) ?_
  · exact fun d member => outside d (by simp [member])
  · exact reads_then_pure (reads_single quote) _

theorem covers_pair : Covers quotedItem QuotedPair := by
  refine covers_mono (covers_bind (covers_char Text.isQuote) fun quote =>
    covers_bind (covers_matched (covers_bind (covers_char _) fun _ => covers_many _)) fun item =>
      covers_bind (covers_single quote) fun _ => covers_pure item) ?_
  rintro _ _ ⟨_, _, quote, rfl, ⟨rfl, mark⟩, _, _, _, rfl, ⟨rfl, _, form⟩, _, _, _, rfl, rfl, rfl, rfl⟩
  obtain ⟨_, more, c, rfl, ⟨rfl, first⟩, others⟩ := form
  refine ⟨⟨quote, mark, by simp⟩, by simp, List.forall_mem_cons.mpr ⟨?_, fun d member => ?_⟩⟩
  · simpa using first
  · simpa using others d member

def Unpaired (text : Text) : Prop := ∀ read body, QuotedPair read body → ¬ read <:+: text

-- A quoted text that starts before a quote ends there at the latest.
theorem pair_before_quote {right after : Text} (pair : QuotedPair read body) (nonempty : right ≠ [])
    (mark : Text.isQuote quote = true) (split : right ++ quote :: rest = read ++ after) :
    read <+: right ++ [quote] := by
  obtain ⟨⟨opening, -, rfl⟩, -, plain⟩ := pair
  obtain ⟨c, right, rfl⟩ := List.exists_cons_of_ne_nil nonempty
  rw [List.cons_append, List.cons_append, List.append_assoc] at split
  obtain ⟨rfl, tail⟩ := List.cons.inj split
  refine List.cons_prefix_cons.mpr ⟨rfl, ?_⟩
  rcases List.append_eq_append_iff.mp tail with ⟨more, rfl, same⟩ | ⟨more, rfl, same⟩
  · cases more with
    | nil =>
        obtain ⟨rfl, -⟩ := List.cons.inj same
        simp
    | cons d more =>
        obtain ⟨rfl, -⟩ := List.cons.inj same
        rw [plain quote (by simp)] at mark
        cases mark
  · cases more with
    | nil =>
        obtain ⟨rfl, -⟩ := List.cons.inj same
        simp
    | cons d more =>
        obtain ⟨rfl, -⟩ := List.cons.inj same
        exact ⟨more ++ [quote], by simp⟩

theorem pair_before_end {right after : Text} (pair : QuotedPair read body) (nonempty : right ≠ [])
    (plain' : ∀ c ∈ rest, Text.isQuote c = false) (split : right ++ rest = read ++ after) :
    read <+: right := by
  obtain ⟨⟨opening, mark, rfl⟩, -, -⟩ := pair
  obtain ⟨c, right, rfl⟩ := List.exists_cons_of_ne_nil nonempty
  rw [List.cons_append, List.cons_append, List.append_assoc] at split
  obtain ⟨rfl, tail⟩ := List.cons.inj split
  refine List.cons_prefix_cons.mpr ⟨rfl, ?_⟩
  have closing : c ∉ rest := by
    intro member
    rw [plain' c member] at mark
    cases mark
  rcases List.append_eq_append_iff.mp tail with ⟨more, rfl, rfl⟩ | ⟨more, rfl, same⟩
  · simp at closing
  · cases more with
    | nil =>
        obtain rfl : _ = rest := same
        simp at closing
    | cons d more =>
        obtain ⟨rfl, -⟩ := List.cons.inj same
        exact ⟨more, by simp⟩

theorem quiet_before_quote (unpaired : Unpaired (passed ++ [quote]))
    (mark : Text.isQuote quote = true) : Quiet quotedItem passed (quote :: rest) := by
  refine quiet_of_covers covers_pair fun left right read after body shape nonempty split pair => ?_
  refine unpaired read body pair ?_
  rw [shape, List.append_assoc]
  exact (pair_before_quote pair nonempty mark split).isInfix.trans (List.suffix_append _ _).isInfix

theorem quiet_before_end (unpaired : Unpaired passed)
    (plain : ∀ c ∈ rest, Text.isQuote c = false) : Quiet quotedItem passed rest := by
  refine quiet_of_covers covers_pair fun left right read after body shape nonempty split pair => ?_
  refine unpaired read body pair ?_
  rw [shape]
  exact (pair_before_end pair nonempty plain split).isInfix.trans (List.suffix_append _ _).isInfix

-- Text without quotes has no quoted text, and one more quote behind it makes none.
theorem plain_unpaired {mark : Text} (plain : ∀ c ∈ passed, Text.isQuote c = false)
    (short : mark.length ≤ 1) : Unpaired (passed ++ mark) := by
  rintro _ body ⟨⟨quote, quotes, rfl⟩, -, -⟩ occurs
  have fewer := occurs.sublist.countP_le (p := Text.isQuote)
  have none : passed.countP Text.isQuote = 0 := List.countP_eq_zero.mpr (by simpa using plain)
  have most := List.countP_le_length (p := Text.isQuote) (l := mark)
  simp only [List.countP_append, List.countP_cons, none, quotes, if_true, List.countP_nil] at fewer
  omega

theorem pair_found_early (pair : QuotedPair read body) (left rest : Text) (position : Nat)
    (before : Option Char) :
    ∃ found others, searchAll quotedItem position before 0 (left ++ (read ++ rest)) = found :: others ∧
      found.start ≤ position + left.length := by
  apply search_all_early
  · obtain ⟨⟨quote, -, rfl⟩, -, -⟩ := pair
    simp
  · intro position before
    rw [reads_pair pair position]
    rfl

end Pairs

section Written

def QuotedName.render (given : QuotedName) : Text := given.quote :: (given.text ++ [given.quote])

inductive Filler where
  | comma
  | gap (part : GapPart)

def Filler.render : Filler → Text
  | .comma => [',']
  | .gap part => part.render

/-- The inside of an array: names with anything between them that is no name. -/
inductive NameArray where
  | done (fillers : List Filler)
  | name (fillers : List Filler) (given : QuotedName) (others : NameArray)

namespace NameArray

def inside : NameArray → Text
  | .done fillers => fillers.flatMap Filler.render
  | .name fillers given others =>
      fillers.flatMap Filler.render ++ (given.render ++ others.inside)

def render (array : NameArray) : Text := '[' :: (array.inside ++ [']'])

def names : NameArray → List String
  | .done _ => []
  | .name _ given others => String.ofList given.text :: others.names

def places (position : Nat) : NameArray → List (Found Text)
  | .done _ => []
  | .name fillers given others =>
      let start := position + (fillers.flatMap Filler.render).length
      let stop := start + given.render.length
      ⟨given.text, start, stop⟩ :: others.places stop

/-- Nothing between the names looks like a quoted text, also not together with the quote that opens
the next name. -/
def Harmless : NameArray → Prop
  | .done fillers => Unpaired (fillers.flatMap Filler.render)
  | .name fillers given others =>
      Unpaired (fillers.flatMap Filler.render ++ [given.quote]) ∧ others.Harmless

def Plain : NameArray → Prop
  | .done fillers => ∀ c ∈ fillers.flatMap Filler.render, Text.isQuote c = false
  | .name fillers _ others =>
      (∀ c ∈ fillers.flatMap Filler.render, Text.isQuote c = false) ∧ others.Plain

end NameArray

end Written

section Names

namespace NameArray

theorem name_pair (given : QuotedName) : QuotedPair given.render given.text :=
  ⟨⟨given.quote, given.mark, rfl⟩, given.nonempty, fun c member => (given.inside c member).2⟩

theorem plain_search {rest : Text} (plain : ∀ c ∈ rest, Text.isQuote c = false) (position : Nat)
    (before : Option Char) : searchAll quotedItem position before 0 rest = [] := by
  have unpaired : Unpaired (rest ++ []) := plain_unpaired plain (Nat.zero_le 1)
  rw [List.append_nil] at unpaired
  have quiet : Quiet quotedItem rest [] := quiet_before_end unpaired (by simp)
  have passed := search_all_quiet quiet position before
  rwa [List.append_nil, searchAll] at passed

theorem done_found {gap rest : Text} (plain : ∀ c ∈ rest, Text.isQuote c = false) (position : Nat)
    (before : Option Char) :
    searchAll quotedItem position before 0 (gap ++ rest) = [] ↔ Unpaired gap := by
  constructor
  · rintro none read body pair ⟨left, right, rfl⟩
    obtain ⟨found, others, searched, -⟩ :=
      pair_found_early pair left (right ++ rest) position before
    simp only [List.append_assoc] at none
    rw [searched] at none
    cases none
  · intro unpaired
    rw [search_all_quiet (quiet_before_end unpaired plain), plain_search plain]

theorem name_first {gap : Text} {given : QuotedName}
    (unpaired : Unpaired (gap ++ [given.quote])) (rest : Text) (position : Nat)
    (before : Option Char) :
    ∃ before', searchAll quotedItem position before 0 (gap ++ (given.render ++ rest)) =
      ⟨given.text, position + gap.length, position + gap.length + given.render.length⟩ ::
        searchAll quotedItem (position + gap.length + given.render.length) before' 0 rest := by
  have quiet : Quiet quotedItem gap (given.render ++ rest) :=
    quiet_before_quote unpaired given.mark
  have nonempty : given.render ≠ [] := by simp [QuotedName.render]
  rw [search_all_quiet quiet, search_all_here (reads_pair (name_pair given)) nonempty]
  exact ⟨_, rfl⟩

-- A quoted text that starts before the next name would be found before it.
theorem name_unpaired {gap rest : Text} {given : QuotedName} {position stop : Nat}
    {before : Option Char} {others : List (Found Text)}
    (found : searchAll quotedItem position before 0 (gap ++ (given.render ++ rest)) =
      ⟨given.text, position + gap.length, stop⟩ :: others) :
    Unpaired (gap ++ [given.quote]) := by
  rintro read body pair ⟨left, right, shape⟩
  have whole : gap ++ (given.render ++ rest) =
      left ++ (read ++ (right ++ (given.text ++ [given.quote] ++ rest))) := by
    rw [← List.append_assoc, ← List.append_assoc, ← List.append_assoc, shape]
    simp [QuotedName.render]
  obtain ⟨first, _, searched, early⟩ := pair_found_early pair left
    (right ++ (given.text ++ [given.quote] ++ rest)) position before
  rw [whole, searched] at found
  obtain ⟨rfl, -⟩ := List.cons.inj found
  have size := congrArg List.length shape
  obtain ⟨⟨quote, -, rfl⟩, nonempty, -⟩ := pair
  have some := List.length_pos_iff.mpr nonempty
  simp only [List.length_append, List.length_cons, List.length_nil] at size early
  omega

/-- The quoted texts that are found in the inside of an array are its names, at their own places,
exactly if nothing between them looks like one. -/
theorem places_found (array : NameArray) {rest : Text} (plain : ∀ c ∈ rest, Text.isQuote c = false)
    (position : Nat) (before : Option Char) :
    searchAll quotedItem position before 0 (array.inside ++ rest) = array.places position ↔
      array.Harmless := by
  induction array generalizing position before with
  | done fillers => exact done_found plain position before
  | name fillers given others ih =>
      rw [inside, List.append_assoc, List.append_assoc]
      constructor
      · intro found
        have unpaired := name_unpaired found
        obtain ⟨before', first⟩ := name_first unpaired (others.inside ++ rest) position before
        exact ⟨unpaired, (ih _ before').mp (List.cons.inj (first.symm.trans found)).2⟩
      · rintro ⟨unpaired, harmless⟩
        obtain ⟨before', first⟩ := name_first unpaired (others.inside ++ rest) position before
        rw [first, (ih _ before').mpr harmless]
        rfl

theorem names_of_places (array : NameArray) (position : Nat) :
    (array.places position).map (fun found => String.ofList found.value) = array.names := by
  induction array generalizing position with
  | done fillers => rfl
  | name fillers given others ih => rw [places, List.map_cons, ih, names]

theorem plain_harmless {array : NameArray} (plain : array.Plain) : array.Harmless := by
  induction array with
  | done fillers =>
      have unpaired := @plain_unpaired _ [] plain (Nat.zero_le 1)
      rwa [List.append_nil] at unpaired
  | name fillers given others ih =>
      exact ⟨plain_unpaired plain.1 (Nat.le_refl 1), ih plain.2⟩

theorem find_all_bracket (text : Text) :
    findAll quotedItem ('[' :: text) = searchAll quotedItem 1 (some '[') 0 text := by
  have fails : Fails quotedItem ('[' :: text) :=
    fails_bind (fails_char (Text.avoids_cons (by decide) text)) _
  rw [findAll, searchAll, fails_first fails]

theorem string_items_harmless {array : NameArray} (harmless : array.Harmless) {rest : Text}
    (plain : ∀ c ∈ rest, Text.isQuote c = false) :
    stringItems ('[' :: (array.inside ++ rest)) = array.names := by
  rw [stringItems, find_all_bracket, (places_found array plain 1 _).mpr harmless, names_of_places]

end NameArray

end Names

section Brackets

theorem fillers_closed (fillers : List Filler) {rest : Text} {before : Char}
    (tail : ∀ before, Closed false (fun _ => false) before rest) :
    Closed false (fun _ => false) before (fillers.flatMap Filler.render ++ rest) := by
  induction fillers generalizing before with
  | nil => exact tail before
  | cons filler fillers ih =>
      rw [List.flatMap_cons, List.append_assoc]
      cases filler with
      | comma => exact closed_mark (by decide) rfl ih
      | gap part =>
          have closed := @gap_closed false before _ [part] (fun _ => ih)
          rwa [List.flatMap_singleton] at closed

theorem inside_closed (array : NameArray) (before : Char) :
    Closed false (fun _ => false) before array.inside := by
  induction array generalizing before with
  | done fillers =>
      have closed := @fillers_closed fillers [] before fun _ => .nil
      rwa [List.append_nil] at closed
  | name fillers given others ih =>
      have quoted : ∀ after, Trivia given.render after := fun _ =>
        .quoted (quote_is_mark given.mark) (quoted_name_body given)
      exact fillers_closed fillers fun _ => .trivia (quoted _) (ih _)

theorem find_closing_array (array : NameArray) {text after : Text} {index : Nat}
    (behind : text.drop index = '[' :: (array.inside ++ ']' :: after)) :
    findClosing text index = .ok (some (index + 1 + array.inside.length)) :=
  find_closing_behind behind rfl (by simp) (inside_closed array '[') (by simp [closes])

end Brackets

end PatternInspector.Literal

namespace PatternInspector.Component

open PatternInspector.Text.Reader (findAll)
open PatternInspector.Literal (NameArray findClosing quotedItem stringItems)

section Arrays

variable {array : NameArray}

theorem array_behind (array : NameArray) (after : Text) :
    array.render ++ after = '[' :: (array.inside ++ ']' :: after) := by
  simp [NameArray.render]

theorem declared_names_array (harmless : array.Harmless) (after : Text) :
    declaredNames findClosing (array.render ++ after) = .ok array.names := by
  have behind : (array.render ++ after).drop 0 = '[' :: (array.inside ++ ']' :: after) :=
    array_behind array after
  have closed := Literal.find_closing_array array behind
  have size : 0 + 1 + array.inside.length + 1 = array.render.length := by
    simp [NameArray.render]
    omega
  have bracket : ((array.render ++ after).head? == some '[') = true := rfl
  rw [declaredNames, if_pos bracket, closed]
  change Except.ok (stringItems ((array.render ++ after).take _)) = _
  rw [size, List.take_left]
  exact congrArg Except.ok (NameArray.string_items_harmless harmless (Text.each_of_all (by decide)))

-- The bracket that closes the array is left out here.
theorem macro_keys_array (harmless : array.Harmless) (front after : Text) (isEmits : Bool)
    (start : Nat) :
    macroKeys findClosing (front ++ (array.render ++ after)) isEmits
      ⟨(), start, front.length + 1⟩ = .ok array.names := by
  have behind : (front ++ (array.render ++ after)).drop front.length =
      '[' :: (array.inside ++ ']' :: after) := by
    rw [List.drop_left, array_behind]
  have closed := Literal.find_closing_array array behind
  have bracket := Literal.present_behind behind
  have cut : Text.slice (front ++ (array.render ++ after)) front.length
      (front.length + 1 + array.inside.length) = '[' :: (array.inside ++ []) := by
    have size : front.length + 1 + array.inside.length - front.length =
        ('[' :: array.inside).length := by
      rw [List.length_cons]
      omega
    rw [Text.slice, behind, size, List.append_nil]
    exact List.take_left
  have angle : ((some '[' : Option Char) == some '<') = false := by decide
  have square : ((some '[' : Option Char) == some '[') = true := by decide
  unfold macroKeys
  simp only [Nat.add_sub_cancel, bracket, angle, square, closed, if_true]
  change Except.ok (stringItems (Text.slice _ _ _)) = _
  rw [cut]
  exact congrArg Except.ok (NameArray.string_items_harmless harmless (by simp))

end Arrays

/-- The names of an array are found at their places exactly if nothing between them looks like a quoted
text, as is the case when no comment holds a quote. They are then what the array declares as an option
and as the argument of a macro, whatever stands around it. -/
theorem array_names_declared (array : NameArray) :
    (findAll quotedItem array.render = array.places 1 ↔ array.Harmless) ∧
    (array.Plain → array.Harmless) ∧
    (array.Harmless → stringItems array.render = array.names ∧
      (∀ after, declaredNames findClosing (array.render ++ after) = .ok array.names) ∧
      ∀ front after isEmits start, macroKeys findClosing (front ++ (array.render ++ after)) isEmits
        ⟨(), start, front.length + 1⟩ = .ok array.names) := by
  have bracket : ∀ c ∈ [']'], Text.isQuote c = false := Text.each_of_all (by decide)
  refine ⟨?_, NameArray.plain_harmless, fun harmless => ⟨?_, ?_, ?_⟩⟩
  · rw [NameArray.render, NameArray.find_all_bracket]
    exact NameArray.places_found array bracket 1 _
  · exact NameArray.string_items_harmless harmless bracket
  · exact declared_names_array harmless
  · exact macro_keys_array harmless

def remarkedArray : NameArray :=
  .name [] ⟨'\'', ['a'], rfl, by decide, Text.each_of_all (by decide)⟩
    (.name [.comma, .gap (.blank ' ' rfl), .gap (.line " it's".toList (by decide))]
      ⟨'\'', ['b'], rfl, by decide, Text.each_of_all (by decide)⟩ (.done []))

/-- The apostrophe of the remark pairs with the quote that opens the second name, which is lost. -/
theorem name_behind_apostrophe :
    remarkedArray.render = "['a', // it's\n'b']".toList ∧ remarkedArray.names = ["a", "b"] ∧
    stringItems remarkedArray.render = ["a", "s\n"] := by
  refine ⟨by decide, by decide, by decide +kernel⟩

end PatternInspector.Component
