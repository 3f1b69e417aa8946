import Mathlib.Data.List.Infix
import PatternInspector.Component.Violation
import PatternInspector.Proofs.Text.Takes

/-!
Directives inside a start tag. A loop or a condition is seen wherever its name stands as a word of
its own between the first character of the tag's name and the end of the tag, and the two never
overlap, so that a tag with both is seen in either order. A word does not reach over a separator:
what a text mentions is what its separated parts mention.
-/
namespace PatternInspector.Component

open PatternInspector.Text (Reader Cursor Avoids beforeEnd isWord isBlank)
open PatternInspector.Text.Reader

section Words

def Apart (before : Option Char) (rest : Text) : Prop :=
  before.any isWord = false ∧ rest.head?.any isWord = false

theorem apart_longer {before : Option Char} {rest more : Text} (apart : Apart before rest)
    (separated : Apart before more) : Apart before (rest ++ more) := by
  cases rest with
  | nil => exact separated
  | cons c rest => exact apart

theorem apart_shorter {before : Option Char} {rest more : Text}
    (apart : Apart before (rest ++ more)) : Apart before rest := by
  cases rest with
  | nil => exact ⟨apart.1, rfl⟩
  | cons c rest => exact apart

/-- The name of a directive: it starts and ends as a word and stays within one attribute. -/
structure DirectiveName (word : String) : Prop where
  first : ∀ rest, (word.toList ++ rest).head?.any isWord = true
  last : ∀ before, (beforeEnd before word.toList).any isWord = true
  unclosed : '>' ∉ word.toList
  unspaced : ' ' ∉ word.toList

theorem loop_name : DirectiveName "v-for" := ⟨fun _ => rfl, fun _ => rfl, by decide, by decide⟩

theorem condition_name : DirectiveName "v-if" := ⟨fun _ => rfl, fun _ => rfl, by decide, by decide⟩

theorem DirectiveName.nonempty {word : String} (known : DirectiveName word) : word.toList ≠ [] := by
  intro empty
  have first := known.first []
  rw [empty] at first
  exact absurd first (by decide)

def directive (word : String) : Reader Unit := do
  keyword word
  Reader.wordEdge

theorem takes_keyword (word : String) : Takes (keyword word) fun before passed rest =>
    passed = word.toList ∧ before.any isWord ≠ (passed ++ rest).head?.any isWord := by
  refine takes_congr (takes_then takes_word_edge fun _ => takes_chars word.toList) ?_
  intro before passed rest
  constructor
  · rintro ⟨_, _, rfl, ⟨rfl, edge⟩, rfl⟩
    exact ⟨rfl, edge⟩
  · rintro ⟨rfl, edge⟩
    exact ⟨[], word.toList, rfl, ⟨rfl, edge⟩, rfl⟩

variable {word other : String}

theorem takes_directive (known : DirectiveName word) :
    Takes (directive word) fun before passed rest => passed = word.toList ∧ Apart before rest := by
  refine takes_congr (takes_then (takes_keyword word) fun _ => takes_word_edge) ?_
  intro before passed rest
  constructor
  · rintro ⟨_, _, rfl, ⟨rfl, edge⟩, rfl, edge'⟩
    rw [known.first] at edge
    rw [known.last] at edge'
    exact ⟨List.append_nil _, Bool.not_eq_true _ ▸ edge, Bool.not_eq_true _ ▸ edge'.symm⟩
  · rintro ⟨rfl, opened, closed⟩
    refine ⟨word.toList, [], (List.append_nil _).symm, ⟨rfl, ?_⟩, rfl, ?_⟩
    · rw [known.first, opened]
      decide
    · rw [known.last, closed]
      decide

def mentions (word : String) (before : Option Char) (text : Text) : Bool :=
  (searchFrom (directive word) 0 before text).isSome

theorem mentions_iff (known : DirectiveName word) {before : Option Char} {text : Text} :
    mentions word before text = true ↔ ∃ left rest, text = left ++ (word.toList ++ rest) ∧
      Apart (beforeEnd before left) rest := by
  rw [mentions, search_takes (takes_directive known)]
  refine exists_congr fun left => ?_
  constructor
  · rintro ⟨_, rest, split, rfl, apart⟩
    exact ⟨rest, split, apart⟩
  · rintro ⟨rest, split, apart⟩
    exact ⟨word.toList, rest, split, rfl, apart⟩

/-- A word does not reach over a separator. -/
theorem mentions_cut (known : DirectiveName word) (before : Option Char) (front behind : Text) :
    mentions word before (front ++ ' ' :: behind) =
      (mentions word before front || mentions word (some ' ') behind) := by
  rw [Bool.eq_iff_iff, Bool.or_eq_true]
  simp only [mentions_iff known]
  constructor
  · rintro ⟨left, rest, split, apart⟩
    rcases List.append_eq_append_iff.mp split with ⟨gap, rfl, inside⟩ | ⟨gap, rfl, inside⟩
    · cases gap with
      | nil =>
          obtain ⟨c, others, shape⟩ := List.exists_cons_of_ne_nil known.nonempty
          rw [shape] at inside
          obtain ⟨rfl, -⟩ := List.cons.inj inside
          exact absurd (shape ▸ List.mem_cons_self) known.unspaced
      | cons c gap =>
          obtain ⟨rfl, rfl⟩ := List.cons.inj inside
          exact Or.inr ⟨gap, rest, rfl, by simpa using apart⟩
    · rcases List.append_eq_append_iff.mp inside with ⟨tail, rfl, rfl⟩ | ⟨tail, shape, inside⟩
      · exact Or.inl ⟨left, tail, rfl, apart_shorter apart⟩
      · cases tail with
        | nil =>
            rw [List.append_nil] at shape
            exact Or.inl ⟨left, [], by rw [← shape, List.append_nil], apart.1, rfl⟩
        | cons c tail =>
            obtain ⟨rfl, -⟩ := List.cons.inj inside
            exact absurd (by simp [shape]) known.unspaced
  · rintro (⟨left, rest, rfl, apart⟩ | ⟨left, rest, rfl, apart⟩)
    · exact ⟨left, rest ++ ' ' :: behind, by simp, apart_longer apart ⟨apart.1, rfl⟩⟩
    · exact ⟨front ++ ' ' :: left, rest, by simp, by simpa using apart⟩

end Words

section Order

variable {first second : String}

def InOrder (first second : String) (before : Option Char) (text : Text) : Prop :=
  ∃ left gap rest, text = left ++ (first.toList ++ (gap ++ (second.toList ++ rest))) ∧
    Apart (beforeEnd before left) (gap ++ (second.toList ++ rest)) ∧
    Apart (beforeEnd before (left ++ (first.toList ++ gap))) rest

theorem mentions_in_order (known : DirectiveName first) (known' : DirectiveName second)
    {before : Option Char} {text : Text} (ordered : InOrder first second before text) :
    mentions first before text = true ∧ mentions second before text = true := by
  obtain ⟨left, gap, rest, rfl, apart, apart'⟩ := ordered
  refine ⟨(mentions_iff known).mpr ⟨left, _, rfl, apart⟩, (mentions_iff known').mpr ?_⟩
  exact ⟨left ++ (first.toList ++ gap), rest, by simp, apart'⟩

/-- No end of the first word is the start of the second, and neither starts with the other. -/
def Separate (first second : String) : Prop :=
  ∀ overlap ∈ first.toList.tails, overlap = [] ∨
    ¬ overlap <+: second.toList ∧ ¬ second.toList <+: overlap

instance : Decidable (Separate first second) := by
  unfold Separate
  infer_instance

-- The word that starts first ends before the other one starts.
theorem in_order_of_start (separate : Separate first second) {before : Option Char}
    {left gap rest rest' : Text} (split : first.toList ++ rest = gap ++ (second.toList ++ rest'))
    (apart : Apart (beforeEnd before left) rest)
    (apart' : Apart (beforeEnd before (left ++ gap)) rest') :
    InOrder first second before (left ++ (first.toList ++ rest)) := by
  rcases List.append_eq_append_iff.mp split with ⟨between, rfl, rfl⟩ | ⟨overlap, shape, inside⟩
  · exact ⟨left, between, rest', rfl, apart, apart'⟩
  · rcases separate overlap ((List.mem_tails _ _).mpr ⟨gap, shape.symm⟩) with rfl | ⟨none, none'⟩
    · rw [List.append_nil] at shape
      obtain rfl : rest = second.toList ++ rest' := inside.symm
      exact ⟨left, [], rest', rfl, apart, by rwa [List.append_nil, shape]⟩
    · rcases List.prefix_or_prefix_of_prefix ⟨rest, inside.symm⟩
        (List.prefix_append second.toList rest') with shorter | longer
      · exact absurd shorter none
      · exact absurd longer none'

/-- Separate words that both stand in a text stand there in one of the two orders. -/
theorem mentions_both (known : DirectiveName first) (known' : DirectiveName second)
    (separate : Separate first second) (separate' : Separate second first)
    {before : Option Char} {text : Text} :
    (mentions first before text && mentions second before text) = true ↔
      InOrder first second before text ∨ InOrder second first before text := by
  rw [Bool.and_eq_true]
  constructor
  · rintro ⟨one, other⟩
    obtain ⟨left, rest, rfl, apart⟩ := (mentions_iff known).mp one
    obtain ⟨left', rest', split, apart'⟩ := (mentions_iff known').mp other
    rcases List.append_eq_append_iff.mp split with ⟨gap, rfl, inside⟩ | ⟨gap, rfl, inside⟩
    · exact Or.inl (in_order_of_start separate inside apart apart')
    · rw [split]
      exact Or.inr (in_order_of_start separate' inside apart' apart)
  · rintro (ordered | ordered)
    · exact mentions_in_order known known' ordered
    · exact (mentions_in_order known' known ordered).symm

end Order

section Tags

variable {word first second : String}

theorem inside_tag_iff {text : Text} : (∀ c ∈ text, insideTag c = true) ↔ '>' ∉ text := by
  simp only [insideTag, bne_iff_ne]
  exact ⟨fun inside member => inside _ member rfl,
    fun absent c member same => absent (same ▸ member)⟩

theorem tag_part_inside {c : Char} (part : isTagPart c = true) : insideTag c = true := by
  refine bne_iff_ne.mpr ?_
  rintro rfl
  exact absurd part (by decide)

def UpTo (word : String) (passed rest : Text) : Prop :=
  ∃ c gap, passed = '<' :: c :: (gap ++ word.toList) ∧ isTagPart c = true ∧ '>' ∉ gap ∧
    Apart (beforeEnd (some c) gap) rest

theorem takes_tag_up_to (known : DirectiveName word) :
    Takes (tagUpTo word) fun _ passed rest => UpTo word passed rest := by
  refine takes_congr (takes_then (takes_single '<') fun _ => takes_then (takes_many1 isTagPart)
    fun _ => takes_then (takes_many insideTag) fun _ => takes_directive known) ?_
  intro before passed rest
  constructor
  · rintro ⟨_, _, rfl, rfl, name, _, rfl, ⟨nonempty, parts⟩, gap, _, rfl, inside, rfl, apart⟩
    obtain ⟨c, name, rfl⟩ := List.exists_cons_of_ne_nil nonempty
    obtain ⟨part, parts⟩ := List.forall_mem_cons.mp parts
    refine ⟨c, name ++ gap, by simp, part, inside_tag_iff.mp ?_, by simpa using apart⟩
    exact List.forall_mem_append.mpr ⟨fun d member => tag_part_inside (parts d member), inside⟩
  · rintro ⟨c, gap, rfl, part, unclosed, apart⟩
    exact ⟨['<'], _, rfl, rfl, [c], _, rfl, ⟨List.cons_ne_nil c [], by simpa using part⟩, gap, _,
      rfl, inside_tag_iff.mpr unclosed, rfl, apart⟩

theorem takes_later_directive (known : DirectiveName word) :
    Takes (laterDirective word) fun before passed rest => ∃ gap, passed = gap ++ word.toList ∧
      '>' ∉ gap ∧ Apart (beforeEnd before gap) rest := by
  refine takes_congr (takes_then (takes_many insideTag) fun _ => takes_directive known) ?_
  intro before passed rest
  constructor
  · rintro ⟨gap, _, rfl, inside, rfl, apart⟩
    exact ⟨gap, rfl, inside_tag_iff.mp inside, apart⟩
  · rintro ⟨gap, rfl, unclosed, apart⟩
    exact ⟨gap, _, rfl, inside_tag_iff.mpr unclosed, rfl, apart⟩

def UpToBoth (first second : String) (passed rest : Text) : Prop :=
  ∃ c left gap, passed = '<' :: c :: (left ++ (first.toList ++ (gap ++ second.toList))) ∧
    isTagPart c = true ∧ '>' ∉ left ∧ '>' ∉ gap ∧
    Apart (beforeEnd (some c) left) (gap ++ (second.toList ++ rest)) ∧
    Apart (beforeEnd (some c) (left ++ (first.toList ++ gap))) rest

theorem takes_both (known : DirectiveName first) (known' : DirectiveName second) :
    Takes (do tagUpTo first; laterDirective second) fun _ passed rest =>
      UpToBoth first second passed rest := by
  refine takes_congr (takes_then (takes_tag_up_to known) fun _ => takes_later_directive known') ?_
  intro before passed rest
  constructor
  · rintro ⟨_, _, rfl, ⟨c, left, rfl, part, unclosed, apart⟩, gap, rfl, unclosed', apart'⟩
    exact ⟨c, left, gap, by simp, part, unclosed, unclosed', by simpa using apart,
      by simpa using apart'⟩
  · rintro ⟨c, left, gap, rfl, part, unclosed, unclosed', apart, apart'⟩
    exact ⟨'<' :: c :: (left ++ first.toList), gap ++ second.toList, by simp,
      ⟨c, left, rfl, part, unclosed, by simpa using apart⟩, gap, rfl, unclosed',
      by simpa using apart'⟩

variable {inner more : Text}

-- A text without the closing mark that starts like a tag is a part of the tag.
theorem part_of_tag {read rest : Text} (unclosed : '>' ∉ read)
    (split : inner ++ '>' :: more = read ++ rest) :
    ∃ tail, inner = read ++ tail ∧ rest = tail ++ '>' :: more := by
  rcases List.append_eq_append_iff.mp split with ⟨tail, rfl, behind⟩ | ⟨tail, rfl, behind⟩
  · cases tail with
    | nil => exact ⟨[], by simp, behind.symm⟩
    | cons c tail =>
        obtain ⟨rfl, -⟩ := List.cons.inj behind
        exact absurd (by simp) unclosed
  · exact ⟨tail, rfl, behind⟩

theorem unclosed_both (known : DirectiveName first) (known' : DirectiveName second)
    {passed rest : Text} (form : UpToBoth first second passed rest) : '>' ∉ passed := by
  obtain ⟨c, left, gap, rfl, part, unclosed, unclosed', -⟩ := form
  have inside : '>' ≠ c := fun same => absurd (same ▸ part) (by decide)
  simp [inside, unclosed, unclosed', known.unclosed, known'.unclosed]

theorem up_to_both_iff (known : DirectiveName first) (known' : DirectiveName second)
    (closing : '>' ∉ inner) :
    (∃ passed rest, '<' :: (inner ++ '>' :: more) = passed ++ rest ∧
      UpToBoth first second passed rest) ↔
    ∃ c others, inner = c :: others ∧ isTagPart c = true ∧
      InOrder first second (some c) others := by
  constructor
  · rintro ⟨passed, rest, split, form⟩
    obtain ⟨tail, shape, rfl⟩ :=
      @part_of_tag ('<' :: inner) more _ _ (unclosed_both known known' form) split
    obtain ⟨c, left, gap, rfl, part, -, -, apart, apart'⟩ := form
    obtain ⟨-, rfl⟩ := List.cons.inj shape
    refine ⟨c, _, rfl, part, left, gap, tail, by simp, ?_, apart_shorter apart'⟩
    exact @apart_shorter _ _ ('>' :: more) (by simpa using apart)
  · rintro ⟨c, _, rfl, part, left, gap, rest, rfl, apart, apart'⟩
    have beyond (before : Option Char) (given : before.any isWord = false) :
        Apart before ('>' :: more) := ⟨given, rfl⟩
    refine ⟨'<' :: c :: (left ++ (first.toList ++ (gap ++ second.toList))), rest ++ '>' :: more,
      by simp, c, left, gap, rfl, part, ?_, ?_, ?_, apart_longer apart' (beyond _ apart'.1)⟩
    · exact fun member => closing (by simp [member])
    · exact fun member => closing (by simp [member])
    · simpa using apart_longer apart (beyond _ apart.1)

/-- Whether the inside of a tag holds a directive behind the first character of its name. -/
def holds (word : String) : Text → Bool
  | [] => false
  | c :: inner => isTagPart c && mentions word (some c) inner

theorem holds_iff : holds word inner = true ↔
    ∃ c others, inner = c :: others ∧ isTagPart c = true ∧
      mentions word (some c) others = true := by
  cases inner with
  | nil => simp [holds]
  | cons c others => simp [holds]

end Tags

section Readers

variable {inner more : Text} {position : Nat} {before : Option Char}

theorem takes_loop_with_condition : Takes loopWithCondition fun _ passed rest =>
    UpToBoth "v-for" "v-if" passed rest ∨ UpToBoth "v-if" "v-for" passed rest :=
  takes_or (takes_both loop_name condition_name) (takes_both condition_name loop_name)

theorem fails_loop_with_condition {text : Text} (avoids : Avoids (· == '<') text) :
    Fails loopWithCondition text := by
  refine fails_takes takes_loop_with_condition ?_
  rintro _ _ rest rfl (⟨c, left, gap, rfl, -⟩ | ⟨c, left, gap, rfl, -⟩)
  · exact absurd (avoids '<' rfl) (by decide)
  · exact absurd (avoids '<' rfl) (by decide)

theorem loop_condition_separate : Separate "v-for" "v-if" ∧ Separate "v-if" "v-for" := by
  decide

/-- A tag with both directives is seen, whichever stands first. -/
theorem loop_with_condition_seen (closing : '>' ∉ inner) :
    (loopWithCondition.first? ⟨position, before, '<' :: (inner ++ '>' :: more)⟩).isSome =
      (holds "v-for" inner && holds "v-if" inner) := by
  rw [Bool.eq_iff_iff, first_takes takes_loop_with_condition]
  simp only [and_or_left, exists_or, up_to_both_iff loop_name condition_name closing,
    up_to_both_iff condition_name loop_name closing]
  cases inner with
  | nil => simp [holds]
  | cons c others =>
      have both := @mentions_both _ _ loop_name condition_name loop_condition_separate.1
        loop_condition_separate.2 (some c) others
      simp only [List.cons.injEq, and_assoc, exists_and_left, exists_eq_left']
      rw [← and_or_left, ← both, holds, holds]
      simp only [Bool.and_eq_true]
      exact and_and_left

theorem loop_with_condition_stop {way : Unit × Cursor}
    (first : loopWithCondition.first? ⟨position, before, '<' :: (inner ++ '>' :: more)⟩ =
      some way) : way.2.position ≤ position + (inner.length + 1) := by
  obtain ⟨passed, rest, split, form, place⟩ :=
    (takes_loop_with_condition _ way.2).mp ⟨way.1, List.mem_of_head? first⟩
  have unclosed : '>' ∉ passed := by
    rcases form with form | form
    · exact unclosed_both loop_name condition_name form
    · exact unclosed_both condition_name loop_name form
  obtain ⟨tail, shape, -⟩ := @part_of_tag ('<' :: inner) more _ _ unclosed split
  have size := congrArg List.length shape
  rw [List.length_append, List.length_cons] at size
  rw [place, Cursor.behind]
  dsimp only
  omega

def WholeTag (word : String) (passed : Text) : Prop :=
  ∃ inner, passed = '<' :: (inner ++ ['>']) ∧ '>' ∉ inner ∧ holds word inner = true

theorem takes_loop_body : Takes (do tagUpTo "v-for"; Reader.many insideTag; Reader.single '>')
    fun _ passed _ => WholeTag "v-for" passed := by
  refine takes_congr (takes_then (takes_tag_up_to loop_name) fun _ =>
    takes_then (takes_many insideTag) fun _ => takes_single '>') ?_
  intro before passed more
  constructor
  · rintro ⟨_, _, rfl, ⟨c, left, rfl, part, unclosed, apart⟩, rest, _, rfl, inside, rfl⟩
    have unclosed' : '>' ∉ rest := inside_tag_iff.mp inside
    have free : '>' ≠ c := fun same => absurd (same ▸ part) (by decide)
    refine ⟨c :: (left ++ ("v-for".toList ++ rest)), by simp, ?_, ?_⟩
    · simp [free, unclosed, unclosed']
    · refine holds_iff.mpr ⟨c, _, rfl, part, (mentions_iff loop_name).mpr ⟨left, rest, rfl, ?_⟩⟩
      exact @apart_shorter _ _ ('>' :: more) (by simpa using apart)
  · rintro ⟨_, rfl, closing, held⟩
    obtain ⟨c, _, rfl, part, mentioned⟩ := holds_iff.mp held
    obtain ⟨left, rest, rfl, apart⟩ := (mentions_iff loop_name).mp mentioned
    refine ⟨'<' :: c :: (left ++ "v-for".toList), rest ++ ['>'], by simp,
      ⟨c, left, rfl, part, ?_, ?_⟩, rest, ['>'], rfl, inside_tag_iff.mpr ?_, rfl⟩
    · exact fun member => closing (by simp [member])
    · simpa using @apart_longer _ _ ('>' :: more) apart ⟨apart.1, rfl⟩
    · exact fun member => closing (by simp [member])

theorem takes_loop_tag : Takes loopTag fun _ passed _ => WholeTag "v-for" passed :=
  takes_matched takes_loop_body

theorem fails_loop_tag {text : Text} (avoids : Avoids (· == '<') text) : Fails loopTag text := by
  refine fails_takes takes_loop_tag ?_
  rintro _ _ rest rfl ⟨inner, rfl, -⟩
  exact absurd (avoids '<' rfl) (by decide)

-- The first closing mark ends both the tag and the match.
theorem whole_tag_exact {word : String} (closing : '>' ∉ inner) {passed rest : Text}
    (whole : WholeTag word passed) (split : '<' :: (inner ++ '>' :: more) = passed ++ rest) :
    passed = '<' :: (inner ++ ['>']) ∧ holds word inner = true := by
  obtain ⟨inner', rfl, closing', held⟩ := whole
  obtain ⟨tail, rfl, behind⟩ :=
    @part_of_tag inner more inner' ('>' :: rest) closing' (by simpa using split)
  cases tail with
  | nil => simpa using held
  | cons c tail =>
      obtain ⟨rfl, -⟩ := List.cons.inj behind
      exact absurd (by simp) closing

theorem loop_tag_seen (closing : '>' ∉ inner) :
    (loopTag.first? ⟨position, before, '<' :: (inner ++ '>' :: more)⟩).isSome =
      holds "v-for" inner := by
  rw [Bool.eq_iff_iff, first_takes takes_loop_tag]
  constructor
  · rintro ⟨passed, rest, split, whole⟩
    exact (whole_tag_exact closing whole split).2
  · intro held
    exact ⟨'<' :: (inner ++ ['>']), more, by simp, inner, rfl, closing, held⟩

theorem loop_tag_whole (closing : '>' ∉ inner) {way : Text × Cursor}
    (first : loopTag.first? ⟨position, before, '<' :: (inner ++ '>' :: more)⟩ = some way) :
    way.1 = '<' :: (inner ++ ['>']) ∧ way.2.position = position + (inner.length + 2) := by
  obtain ⟨rest, split, whole, place⟩ := matched_way takes_loop_body (List.mem_of_head? first)
  obtain ⟨same, -⟩ := whole_tag_exact closing whole split
  refine ⟨same, ?_⟩
  rw [place, same, Cursor.behind]
  simp

end Readers

section Keys

def keySpellings : List String := [":key", "v-bind:key"]

def KeyForm (passed : Text) : Prop :=
  ∃ c gap, ∃ key ∈ keySpellings, passed = c :: (key.toList ++ (gap ++ ['='])) ∧
    isBlank c = true ∧ ∀ d ∈ gap, isBlank d = true

theorem takes_key_binding : Takes keyBinding fun _ passed _ => KeyForm passed := by
  refine takes_congr (takes_then (takes_char isBlank) fun _ =>
    takes_then (takes_words keySpellings) fun _ =>
      takes_then (takes_many isBlank) fun _ => takes_single '=') ?_
  intro _ passed _
  constructor
  · rintro ⟨_, _, rfl, ⟨c, rfl, blank⟩, _, _, rfl, ⟨key, known, rfl⟩, gap, _, rfl, blanks, rfl⟩
    exact ⟨c, gap, key, known, rfl, blank, blanks⟩
  · rintro ⟨c, gap, key, known, rfl, blank, blanks⟩
    exact ⟨[c], _, rfl, ⟨c, rfl, blank⟩, key.toList, _, rfl, ⟨key, known, rfl⟩, gap, ['='], rfl,
      blanks, rfl⟩

theorem binds_key_iff {text : Text} :
    occurs keyBinding text = true ↔ ∃ passed, KeyForm passed ∧ passed <:+: text := by
  rw [occurs_takes takes_key_binding]
  constructor
  · rintro ⟨left, passed, rest, rfl, form⟩
    exact ⟨passed, form, left, rest, List.append_assoc _ _ _⟩
  · rintro ⟨passed, form, left, rest, rfl⟩
    exact ⟨left, passed, rest, List.append_assoc _ _ _, form⟩

theorem starts_blank {text : Text} (binds : occurs keyBinding text = true) :
    ∃ c ∈ text, isBlank c = true := by
  obtain ⟨_, ⟨c, gap, key, -, rfl, blank, -⟩, inside⟩ := binds_key_iff.mp binds
  exact ⟨c, inside.subset List.mem_cons_self, blank⟩

def Assigns (text : Text) : Prop :=
  ∃ gap rest, text = gap ++ '=' :: rest ∧ ∀ c ∈ gap, isBlank c = true

theorem assigns_longer {text more : Text} (assigns : Assigns text) : Assigns (text ++ more) := by
  obtain ⟨gap, rest, rfl, blanks⟩ := assigns
  exact ⟨gap, rest ++ more, by simp, blanks⟩

-- The rest of a match behind its first character: the key goes on, or an assignment is left.
theorem key_form_rest {c mark : Char} {near far : Text}
    (foreign : ∀ key ∈ keySpellings, mark ∉ key.toList)
    (form : KeyForm (c :: near ++ mark :: far)) : Assigns (mark :: far) := by
  obtain ⟨_, gap, key, known, split, -, blanks⟩ := form
  rcases List.append_eq_append_iff.mp (List.cons.inj split).2 with
    ⟨inside, shape, behind⟩ | ⟨passed, -, behind⟩
  · cases inside with
    | nil => exact ⟨gap, [], behind, blanks⟩
    | cons d inside =>
        obtain ⟨rfl, -⟩ := List.cons.inj behind
        exact absurd (by simp [shape]) (foreign key known)
  · rcases List.append_eq_append_iff.mp behind with ⟨left, -, last⟩ | ⟨left, rfl, last⟩
    · cases left with
      | nil => exact ⟨[], [], last.symm, by simp⟩
      | cons d left => simp at last
    · exact ⟨left, [], last, fun d member => blanks d (List.mem_append_right passed member)⟩

/-- No key is bound across a place where no key goes on and nothing is assigned. -/
theorem binds_key_cut {front behind : Text} {mark : Char}
    (foreign : ∀ key ∈ keySpellings, mark ∉ key.toList) (unassigned : ¬ Assigns (mark :: behind)) :
    occurs keyBinding (front ++ mark :: behind) =
      (occurs keyBinding front || occurs keyBinding (mark :: behind)) := by
  rw [Bool.eq_iff_iff, Bool.or_eq_true]
  simp only [binds_key_iff]
  constructor
  · rintro ⟨passed, form, inside⟩
    rcases List.infix_append_iff.mp inside with left | right | ⟨near, far, rfl, near', far'⟩
    · exact Or.inl ⟨passed, form, left⟩
    · exact Or.inr ⟨passed, form, right⟩
    · obtain ⟨tail, whole⟩ := far'
      cases near with
      | nil => exact Or.inr ⟨far, form, [], tail, whole⟩
      | cons c near =>
          cases far with
          | nil => exact Or.inl ⟨c :: near, by simpa using form, near'.isInfix⟩
          | cons d far =>
              obtain rfl : d = mark := (List.cons.inj whole).1
              exact absurd (whole ▸ assigns_longer (key_form_rest foreign form)) unassigned
  · rintro (⟨passed, form, inside⟩ | ⟨passed, form, inside⟩)
    · exact ⟨passed, form, inside.trans (List.prefix_append _ _).isInfix⟩
    · exact ⟨passed, form, inside.trans (List.suffix_append _ _).isInfix⟩

end Keys

end PatternInspector.Component
