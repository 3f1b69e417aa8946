import PatternInspector.Proofs.Component.Scan

/-!
Composables as they are written: a function declaration or a constant arrow function with its name,
its closed parameters, and a block or an expression behind them. Whatever follows such a text in a
script, its head is the first one found there.
-/
namespace PatternInspector.Component

open PatternInspector.Literal (Closed)
open PatternInspector.Text (Avoids Reader)

section Texts

structure Gap where
  first : Char
  more : Text
  white : ∀ c ∈ first :: more, Text.isBlank c = true

def Gap.text (gap : Gap) : Text := gap.first :: gap.more

structure Spaces where
  text : Text
  white : ∀ c ∈ text, Text.isBlank c = true

def mark (given : String) : Option Gap → Text
  | none => []
  | some gap => given.toList ++ gap.text

structure ComposableName where
  capital : Char
  more : Text
  upper : Text.isUpperLetter capital = true
  inside : ∀ c ∈ more, Text.isNamePart c = true

def ComposableName.text (name : ComposableName) : Text := "use".toList ++ name.capital :: name.more

inductive HeadForm where
  | function (exported isAsync : Option Gap) (gap : Gap) (after : Spaces)
  | arrow (exported : Option Gap) (gap : Gap) (before after : Spaces) (isAsync : Option Spaces)

namespace HeadForm

def exported : HeadForm → Bool
  | .function exported .. => exported.isSome
  | .arrow exported .. => exported.isSome

def render (name : ComposableName) : HeadForm → Text
  | .function exported isAsync gap after =>
      mark "export" exported ++ (mark "async" isAsync ++ ("function".toList ++ (gap.text ++
        (name.text ++ after.text))))
  | .arrow exported gap before after isAsync =>
      mark "export" exported ++ ("const".toList ++ (gap.text ++ (name.text ++ (before.text ++
        (['='] ++ (after.text ++ isAsync.elim [] fun spaces => "async".toList ++ spaces.text))))))

end HeadForm

/-- What follows the parameters: a block, perhaps with more before it, or only text without braces,
as in an arrow function with an expression for its body. -/
inductive Ending where
  | block (between inner : Text) (plain : ∀ c ∈ between, c ≠ '\x7b')
      (closed : Closed false (fun _ => false) '\x7b' inner)
  | expression (text : Text) (plain : ∀ c ∈ text, c ≠ '\x7b')

namespace Ending

def text : Ending → Text
  | .block between inner .. => between ++ '\x7b' :: (inner ++ ['\x7d'])
  | .expression text _ => text

def hasBlock : Ending → Bool
  | .block .. => true
  | .expression .. => false

end Ending

structure Composable where
  form : HeadForm
  name : ComposableName
  inner : Text
  closed : Closed false (fun _ => false) '(' inner
  ending : Ending

namespace Composable

def parameters (composable : Composable) : Text := '(' :: (composable.inner ++ [')'])

def text (composable : Composable) : Text :=
  composable.form.render composable.name ++ (composable.parameters ++ composable.ending.text)

end Composable

end Texts

section Heads

open PatternInspector.Text.Reader

variable {before : Option Char} {rest : Text}

theorem reads_gap (gap : Gap) (dark : Avoids Text.isBlank rest) :
    Reads blanks1 before gap.text rest () :=
  reads_many1 (gap.white _ List.mem_cons_self)
    (fun c member => gap.white c (List.mem_cons_of_mem _ member)) dark

theorem fails_word {c : Char} {given : String} {letters : Text} (shape : given.toList = c :: letters)
    (avoids : Avoids (· == c) rest) : Fails (word given) rest := by
  unfold word
  rw [shape]
  exact fails_bind (fails_single avoids) _

-- A word that may be left out is read if it is there, as what follows starts with another letter.
theorem reads_mark {c : Char} {given : String} {letters : Text} (shape : given.toList = c :: letters)
    (gap : Option Gap) (dark : Avoids Text.isBlank rest) (other : Avoids (· == c) rest) :
    Reads (optional do word given; blanks1) before (mark given gap) rest (gap.map fun _ => ()) := by
  cases gap with
  | none => exact reads_optional_none (fails_bind (fails_word shape other) _)
  | some gap => exact reads_optional_some (reads_bind (reads_word given) (reads_gap gap dark))

theorem reads_export (gap : Option Gap) (dark : Avoids Text.isBlank rest)
    (other : Avoids (· == 'e') rest) :
    Reads exportMark before (mark "export" gap) rest gap.isSome := by
  have marked : Reads (optional do word "export"; blanks1) before (mark "export" gap) rest
      (gap.map fun _ => ()) := reads_mark rfl gap dark other
  have read := reads_then_pure marked Option.isSome
  rwa [Option.isSome_map] at read

theorem blank_not_part {c : Char} (white : Text.isBlank c = true) : Text.isNamePart c = false := by
  by_contra part
  rw [Text.name_part_not_blank (Bool.of_not_eq_false part)] at white
  cases white

-- Blanks and what stands behind them stop a name.
theorem spaces_stop (spaces : Spaces) {tail : Text} (stop : Avoids Text.isNamePart (tail ++ rest)) :
    Avoids Text.isNamePart (spaces.text ++ tail ++ rest) := by
  rw [List.append_assoc]
  refine Text.avoids_append (fun c head => ?_) fun _ => stop
  exact blank_not_part (spaces.white c (List.mem_of_head? head))

theorem name_parts (name : ComposableName) : ∀ c ∈ name.text, Text.isNamePart c = true := by
  intro c member
  rcases List.mem_append.mp member with start | later
  · have letters : ∀ c ∈ "use".toList, Text.isNamePart c = true := Text.each_of_all (by decide)
    exact letters c start
  · rcases List.mem_cons.mp later with rfl | more
    · refine Text.name_start_part ?_
      simp [Text.isNameStart, Text.isLetter, name.upper]
    · exact name.inside c more

theorem reads_name_text (name : ComposableName) (stop : Avoids Text.isNamePart rest) :
    Reads (matched Text.Reader.name) before name.text rest name.text := by
  have first : Text.isNameStart 'u' = true := by decide
  exact reads_matched (reads_name first
    (fun c member => name_parts name c (List.mem_cons_of_mem _ member)) stop)

theorem reads_composable_name (name : ComposableName) (stop : Avoids Text.isNamePart rest) :
    Reads composableName before name.text rest name.text :=
  reads_matched (reads_bind (reads_word "use")
    (reads_bind (reads_char name.upper) (reads_many name.inside stop)))

-- A part that is left out reads nothing.
theorem reads_past {α β : Type} {reader : Reader α} {next : α → Reader β} {read : Text} {value : α}
    {result : β} (first : Reads reader before [] (read ++ rest) value)
    (second : Reads (next value) before read rest result) :
    Reads (reader >>= next) before read rest result :=
  reads_bind first second

theorem reads_function_head (name : ComposableName) (exported isAsync : Option Gap) (gap : Gap)
    (after : Spaces) :
    Reads functionHead before
      ((HeadForm.function exported isAsync gap after).render name ++ ['(']) rest
      ⟨name.text, exported.isSome⟩ := by
  unfold HeadForm.render functionHead
  simp only [List.append_assoc]
  refine reads_bind (reads_export exported ?_ ?_) ?_
  · cases isAsync <;> exact Text.avoids_cons (by decide) _
  · cases isAsync <;> exact Text.avoids_cons (by decide) _
  refine reads_bind (reads_mark rfl isAsync (Text.avoids_cons (by decide) _)
    (Text.avoids_cons (by decide) _)) ?_
  refine reads_bind (reads_word "function") ?_
  refine reads_bind (reads_blanks gap.white (Text.avoids_cons (by decide) _)) ?_
  refine reads_past (reads_optional_none (fails_single (Text.avoids_cons (by decide) _))) ?_
  refine reads_past (reads_blanks (by simp) (Text.avoids_cons (by decide) _)) ?_
  refine reads_bind (reads_name_text name ?_) ?_
  · exact spaces_stop after (Text.avoids_cons (by decide) _)
  refine reads_bind (reads_blanks after.white (Text.avoids_cons (by decide) _)) ?_
  exact reads_then_pure (reads_single '(') _

theorem reads_arrow_head (name : ComposableName) (exported : Option Gap) (gap : Gap)
    (before' after : Spaces) (isAsync : Option Spaces) :
    Reads arrowHead before
      ((HeadForm.arrow exported gap before' after isAsync).render name ++ ['(']) rest
      ⟨name.text, exported.isSome⟩ := by
  unfold HeadForm.render arrowHead
  simp only [List.append_assoc]
  refine reads_bind (reads_export exported (Text.avoids_cons (by decide) _)
    (Text.avoids_cons (by decide) _)) ?_
  refine reads_bind (reads_word "const") ?_
  refine reads_bind (reads_gap gap (Text.avoids_cons (by decide) _)) ?_
  refine reads_bind (reads_composable_name name ?_) ?_
  · exact spaces_stop before' (Text.avoids_cons (by decide) _)
  refine reads_bind (reads_blanks before'.white (Text.avoids_cons (by decide) _)) ?_
  refine reads_bind (reads_single '=') ?_
  refine reads_bind (reads_blanks after.white ?_) ?_
  · cases isAsync <;> exact Text.avoids_cons (by decide) _
  cases isAsync with
  | none =>
      refine reads_past (reads_optional_none (fails_bind (fails_word rfl ?_) _)) ?_
      · exact Text.avoids_cons (by decide) _
      exact reads_then_pure (reads_single '(') _
  | some spaces =>
      refine reads_bind (reads_optional_some (reads_bind (reads_word "async")
        (reads_blanks spaces.white (Text.avoids_cons (by decide) _)))) ?_
      exact reads_then_pure (reads_single '(') _

-- Behind blanks of a gap there is a blank or what follows the gap.
theorem gap_split {gap passed after tail : Text} {c : Char} {accepts : Char → Bool}
    (white : ∀ d ∈ gap, Text.isBlank d = true) (white' : ∀ d ∈ passed, Text.isBlank d = true)
    (dark : Text.isBlank c = false) (refused : accepts c = false)
    (blank : ∀ d, Text.isBlank d = true → accepts d = false)
    (split : gap ++ c :: tail = passed ++ after) : Avoids accepts after := by
  rcases List.append_eq_append_iff.mp split with ⟨more, rfl, rest⟩ | ⟨more, rfl, rfl⟩
  · cases more with
    | nil =>
        obtain rfl : c :: tail = after := rest
        exact Text.avoids_cons refused tail
    | cons d more =>
        obtain ⟨rfl, -⟩ := List.cons.inj rest
        rw [white' c (by simp)] at dark
        cases dark
  · refine Text.avoids_append (fun d head => ?_) fun _ => Text.avoids_cons refused tail
    exact blank d (white d (List.mem_append_right _ (List.mem_of_head? head)))

def startsFunction (c : Char) : Bool := c == 'a' || c == 'f'

theorem blank_starts_none {c : Char} (white : Text.isBlank c = true) : startsFunction c = false := by
  rw [startsFunction, Bool.or_eq_false_iff, beq_eq_false_iff_ne, beq_eq_false_iff_ne]
  exact ⟨Text.ne_of_class white (by decide), Text.ne_of_class white (by decide)⟩

theorem covers_blanks1 : Covers blanks1 fun passed _ => ∀ c ∈ passed, Text.isBlank c = true := by
  refine covers_mono (covers_bind (covers_char Text.isBlank) fun _ => covers_many Text.isBlank) ?_
  rintro _ _ ⟨_, right, c, rfl, ⟨rfl, first⟩, inside⟩ d member
  rcases List.mem_cons.mp member with rfl | later
  · exact first
  · exact inside d later

theorem covers_export : Covers exportMark fun passed _ =>
    passed = [] ∨ ∃ blanks, passed = "export".toList ++ blanks ∧
      ∀ c ∈ blanks, Text.isBlank c = true := by
  have marked := covers_bind (covers_bind (covers_chars "export".toList) fun _ => covers_blanks1)
    fun value => covers_pure (some value)
  refine covers_mono (covers_bind (covers_or marked (covers_pure none)) fun _ => covers_pure _) ?_
  rintro _ _ ⟨_, _, value, rfl, given | ⟨rfl, -⟩, rfl, -⟩
  · obtain ⟨_, _, _, rfl, ⟨_, blanks, _, rfl, rfl, white⟩, rfl, -⟩ := given
    exact Or.inr ⟨blanks, by simp, white⟩
  · exact Or.inl rfl

theorem function_head_refuses (name : ComposableName) (exported : Option Gap) (gap : Gap)
    (before' after : Spaces) (isAsync : Option Spaces) (rest : Text) :
    Fails functionHead ((HeadForm.arrow exported gap before' after isAsync).render name ++ rest) := by
  refine fails_covered covers_export fun passed behind _ split form => ?_
  have other : Avoids startsFunction behind := by
    rcases form with rfl | ⟨blanks, rfl, white⟩
    · obtain rfl : _ = behind := split
      cases exported <;> exact Text.avoids_cons (by decide) _
    · cases exported with
      | none => exact absurd split (by simp [HeadForm.render, mark])
      | some first =>
          simp only [HeadForm.render, mark, List.append_assoc] at split
          exact gap_split first.white white (by decide) (by decide) (fun _ => blank_starts_none)
            (List.append_cancel_left split)
  refine fails_idle (idle_optional (fails_bind (fails_word rfl fun c head => ?_) _)) fun _ =>
    fails_bind (fails_word rfl fun c head => ?_) _
  · exact (Bool.or_eq_false_iff.mp (other c head)).1
  · exact (Bool.or_eq_false_iff.mp (other c head)).2

theorem insert_behind_first {first : Found DefinitionHead} (start : first.start = 0)
    (found : Found DefinitionHead) (heads : List (Found DefinitionHead)) :
    insertByStart found (first :: heads) = first :: insertByStart found heads := by
  rw [insertByStart, start, if_neg (Nat.not_lt_zero _)]

-- A head at the start of the script stays first while others are sorted in.
theorem first_stays {first : Found DefinitionHead} (start : first.start = 0)
    (arrows heads : List (Found DefinitionHead)) :
    ∃ others, arrows.foldl (fun heads found => insertByStart found heads) (first :: heads) =
      first :: others := by
  induction arrows generalizing heads with
  | nil => exact ⟨heads, rfl⟩
  | cons arrow arrows ih =>
      rw [List.foldl_cons, insert_behind_first start]
      exact ih _

theorem insert_before {first : Found DefinitionHead} {heads : List (Found DefinitionHead)}
    (later : ∀ head ∈ heads, first.start < head.start) :
    insertByStart first heads = first :: heads := by
  cases heads with
  | nil => rfl
  | cons head heads => exact if_pos (later head List.mem_cons_self)

theorem find_all_later {α : Type} {reader : Reader α} {form : Text → α → Prop} {text : Text}
    (covers : Covers reader form) (nonempty : text ≠ []) (fails : Fails reader text) {found : Found α}
    (member : found ∈ findAll reader text) : 0 < found.start := by
  obtain ⟨c, rest, rfl⟩ := List.exists_cons_of_ne_nil nonempty
  rw [findAll, searchAll, fails_first fails] at member
  obtain ⟨left, -, -, -, -, start, -⟩ := search_all_found covers member
  rw [start]
  omega

theorem find_all_first {α : Type} {reader : Reader α} {read : Text} {value : α}
    (reads : Reads reader none read rest value) (nonempty : read ≠ []) :
    ∃ others, findAll reader (read ++ rest) = ⟨value, 0, read.length⟩ :: others := by
  rw [findAll, search_all_here reads nonempty, Nat.zero_add]
  exact ⟨_, rfl⟩

/-- The head of the definition that a script starts with comes first. -/
theorem first_head (form : HeadForm) (name : ComposableName) (rest : Text) :
    ∃ others, definitionHeads (form.render name ++ ['('] ++ rest) =
      ⟨⟨name.text, form.exported⟩, 0, (form.render name ++ ['(']).length⟩ :: others := by
  have nonempty : form.render name ++ ['('] ≠ [] := by simp
  unfold definitionHeads
  cases form with
  | function exported isAsync gap after =>
      obtain ⟨others, first⟩ :=
        find_all_first (reads_function_head name exported isAsync gap after) nonempty
      rw [first]
      exact first_stays rfl _ others
  | arrow exported gap before' after isAsync =>
      obtain ⟨others, first⟩ :=
        find_all_first (reads_arrow_head name exported gap before' after isAsync) nonempty
      rw [first, List.foldl_cons, insert_before]
      · exact first_stays rfl others _
      · intro head member
        have fails := function_head_refuses name exported gap before' after isAsync (['('] ++ rest)
        rw [← List.append_assoc] at fails
        exact find_all_later function_head_ends (by simp) fails member

end Heads

end PatternInspector.Component
