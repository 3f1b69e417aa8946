import Mathlib.Data.List.Chain
import Mathlib.Data.List.Infix
import PatternInspector.Proofs.Text.Basic
import PatternInspector.TypeScript.Naming

/-!
Names and their styles. On letters, digits and underscores the case maps work letter by letter.
Joining words undoes splitting them where no two capitals stand side by side, and splitting undoes
joining where the joined words leave no such capitals. A conversion reaches its style, but for a name
with a leading underscore, which becomes no name in camel case or snake case.
-/
namespace PatternInspector.TypeScript.NamingStyle

open PatternInspector.Text (isUpperLetter isLowerLetter isLetter isDigit each_of_all)

section Letters

def isNameLetter (c : Char) : Bool := isAlphanumeric c || c == '_'

def isSnakeLetter (c : Char) : Bool := isLowerLetter c || isDigit c || c == '_'

def nameLetters : Text := "ABCDEFGHIJKLMNOPQRSTUVWXYZabcdefghijklmnopqrstuvwxyz0123456789_".toList

theorem mem_name_letters {c : Char} (letter : isNameLetter c = true) : c ∈ nameLetters := by
  have codes : ∀ code < 123,
      Text.inRanges [(48, 57), (65, 90), (95, 95), (97, 122)] (Char.ofNat code) = true →
        Char.ofNat code ∈ nameLetters := by
    decide +kernel
  have range := Text.ascii_word_ranges letter
  have bound : c.toNat < 123 := by
    simp only [Text.inRanges, List.any_cons, List.any_nil, Bool.or_false, Bool.or_eq_true,
      Bool.and_eq_true, decide_eq_true_eq] at range
    omega
  have found := codes c.toNat bound
  rw [Char.ofNat_toNat] at found
  exact found range

theorem case_table : ∀ c ∈ nameLetters, Text.lowerChar c = [c.toLower] ∧
    Text.upperChar c = [c.toUpper] ∧ (c == Text.capitalSigma) = false :=
  each_of_all (by decide +kernel)

theorem lower_table : ∀ c ∈ nameLetters, isSnakeLetter c.toLower = true ∧
    (isLetter c = true → isLowerLetter c.toLower = true) ∧
    (isUpperLetter c = false → c.toLower = c) ∧
    (isUpperLetter c = true → c.toLower.toUpper = c) :=
  each_of_all (by decide +kernel)

theorem upper_table : ∀ c ∈ nameLetters, isLowerLetter c.toUpper = false ∧
    (isLetter c = true → isUpperLetter c.toUpper = true) ∧
    (isLowerLetter c = true → asciiUpper c = c.toUpper ∧ c.toUpper.toLower = c) :=
  each_of_all (by decide +kernel)

theorem small_table : ∀ c ∈ nameLetters, (isLowerLetter c || isDigit c) = true →
    isUpperLetter c = false ∧ c.toLower = c ∧ isAlphanumeric c = true ∧
    isAlphanumeric c.toUpper = true :=
  each_of_all (by decide +kernel)

theorem snake_letter_named {c : Char} (letter : isSnakeLetter c = true) :
    isNameLetter c = true := by
  simp only [isSnakeLetter, isNameLetter, isAlphanumeric, isLetter, Bool.or_eq_true] at letter ⊢
  tauto

theorem small_letter {c : Char} (small : (isLowerLetter c || isDigit c) = true) :
    isUpperLetter c = false ∧ c.toLower = c ∧ isAlphanumeric c = true ∧
      isAlphanumeric c.toUpper = true :=
  small_table c (mem_name_letters (snake_letter_named (by simp [isSnakeLetter, small]))) small

theorem alphanumeric_plain {c : Char} (given : isAlphanumeric c = true) : c ≠ '_' :=
  Text.ne_of_class given (by decide)

variable {text : Text} (letters : ∀ c ∈ text, isNameLetter c = true)
include letters

theorem lower_letters : Text.lower text = text.map Char.toLower := by
  have mapped : ∀ before, Text.lowerAfter before text = text.map Char.toLower := by
    induction text with
    | nil => exact fun _ => rfl
    | cons c text ih =>
        intro before
        obtain ⟨first, rest⟩ := List.forall_mem_cons.mp letters
        obtain ⟨lower, -, other⟩ := case_table c (mem_name_letters first)
        simp [Text.lowerAfter, other, lower, ih rest]
  exact mapped []

theorem upper_letters : Text.upper text = text.map Char.toUpper := by
  induction text with
  | nil => rfl
  | cons c text ih =>
      obtain ⟨first, rest⟩ := List.forall_mem_cons.mp letters
      obtain ⟨-, upper, -⟩ := case_table c (mem_name_letters first)
      rw [Text.upper, List.flatMap_cons, upper, List.map_cons, ← ih rest]
      rfl

end Letters

section Joining

theorem join_words_plain {c : Char} (plain : c ≠ '_') (rest : Text) :
    joinWords (c :: rest) = c :: joinWords rest := by
  rw [joinWords] <;> simp_all

theorem join_words_mark {c : Char} (lower : isLowerLetter c = true) (rest : Text) :
    joinWords ('_' :: c :: rest) = c.toUpper :: joinWords rest := by
  have letter : isNameLetter c = true := by simp [isNameLetter, isAlphanumeric, isLetter, lower]
  obtain ⟨-, -, upper⟩ := upper_table c (mem_name_letters letter)
  rw [joinWords, if_pos lower, (upper lower).1]

theorem join_words_word {word : Text} (plain : ∀ c ∈ word, isAlphanumeric c = true) (rest : Text) :
    joinWords (word ++ rest) = word ++ joinWords rest := by
  induction word with
  | nil => rfl
  | cons c word ih =>
      obtain ⟨first, others⟩ := List.forall_mem_cons.mp plain
      rw [List.cons_append, join_words_plain (alphanumeric_plain first), ih others]
      rfl

end Joining

section Splitting

def splitAfter : Char → Text → Text
  | _, [] => []
  | before, c :: rest =>
      if (isLowerLetter before || isDigit before) && isUpperLetter c then
        '_' :: c :: splitAfter c rest
      else c :: splitAfter c rest

theorem split_words_cons (c : Char) (rest : Text) :
    splitWords (c :: rest) = c :: splitAfter c rest := by
  induction rest generalizing c with
  | nil => rfl
  | cons d rest ih =>
      rw [splitWords, splitAfter, ih d]
      split <;> rfl

theorem split_after_capital {before c : Char}
    (small : (isLowerLetter before || isDigit before) = true) (capital : isUpperLetter c = true)
    (rest : Text) : splitAfter before (c :: rest) = '_' :: c :: splitAfter c rest := by
  rw [splitAfter, small, capital]
  rfl

theorem split_after_small {c : Char} (small : isUpperLetter c = false) (before : Char)
    (rest : Text) : splitAfter before (c :: rest) = c :: splitAfter c rest := by
  rw [splitAfter, small, Bool.and_false]
  rfl

theorem split_after_word {word : Text} (small : ∀ c ∈ word, isUpperLetter c = false)
    (before : Char) (rest : Text) :
    splitAfter before (word ++ rest) = word ++ splitAfter (Text.lastAfter before word) rest := by
  induction word generalizing before with
  | nil => rfl
  | cons c word ih =>
      obtain ⟨first, others⟩ := List.forall_mem_cons.mp small
      rw [List.cons_append, split_after_small first, ih others]
      rfl

theorem split_after_letters (before : Char) {text : Text}
    (letters : ∀ c ∈ text, isNameLetter c = true) :
    ∀ c ∈ splitAfter before text, isNameLetter c = true := by
  induction text generalizing before with
  | nil => exact letters
  | cons c text ih =>
      obtain ⟨first, rest⟩ := List.forall_mem_cons.mp letters
      have tail := ih c rest
      rw [splitAfter]
      split
      next => exact List.forall_mem_cons.mpr ⟨by decide, List.forall_mem_cons.mpr ⟨first, tail⟩⟩
      next => exact List.forall_mem_cons.mpr ⟨first, tail⟩

end Splitting

section Styles

theorem all_up_to_newline {accepts : Char → Bool} {text : Text}
    (all : ∀ c ∈ text, accepts c = true) : allUpToNewline accepts text = true := by
  induction text with
  | nil => rfl
  | cons c text ih =>
      obtain ⟨first, rest⟩ := List.forall_mem_cons.mp all
      unfold allUpToNewline
      split <;> simp_all

theorem accepts_snake {c : Char} {rest : Text} (first : isLowerLetter c = true)
    (others : ∀ d ∈ rest, isSnakeLetter d = true) : snakeCase.accepts (c :: rest) = true :=
  Bool.and_eq_true_iff.mpr ⟨first, all_up_to_newline others⟩

theorem accepts_camel {c : Char} {rest : Text} (first : isLowerLetter c = true)
    (others : ∀ d ∈ rest, isAlphanumeric d = true) : camelCase.accepts (c :: rest) = true :=
  Bool.and_eq_true_iff.mpr ⟨first, all_up_to_newline others⟩

theorem accepts_pascal {c : Char} {rest : Text} (first : isUpperLetter c = true)
    (others : ∀ d ∈ rest, isAlphanumeric d = true) : pascalCase.accepts (c :: rest) = true :=
  Bool.and_eq_true_iff.mpr ⟨first, all_up_to_newline others⟩

end Styles

section Conversions

variable {c : Char} {rest : Text} (letters : ∀ d ∈ c :: rest, isNameLetter d = true)
include letters

theorem to_snake_cons :
    toSnake (c :: rest) = c.toLower :: (splitAfter c rest).map Char.toLower := by
  obtain ⟨first, others⟩ := List.forall_mem_cons.mp letters
  have split : ∀ d ∈ c :: splitAfter c rest, isNameLetter d = true :=
    List.forall_mem_cons.mpr ⟨first, split_after_letters c others⟩
  rw [toSnake, split_words_cons, lower_letters split, List.map_cons]

theorem to_camel_cons : toCamel (c :: rest) = joinWords (c.toLower :: rest) := by
  have first : ∀ d ∈ [c], isNameLetter d = true := by simpa using letters c (by simp)
  rw [toCamel, List.take_succ_cons, List.take_zero, lower_letters first]
  rfl

theorem to_pascal_cons : toPascal (c :: rest) = joinWords (c.toUpper :: rest) := by
  have first : ∀ d ∈ [c], isNameLetter d = true := by simpa using letters c (by simp)
  rw [toPascal, List.take_succ_cons, List.take_zero, upper_letters first]
  rfl

theorem snake_tail : ∀ d ∈ (splitAfter c rest).map Char.toLower, isSnakeLetter d = true := by
  intro d member
  obtain ⟨e, present, rfl⟩ := List.mem_map.mp member
  have letter := split_after_letters c (List.forall_mem_cons.mp letters).2 e present
  exact (lower_table e (mem_name_letters letter)).1

end Conversions

section Inverse

def CapitalsApart (text : Text) : Prop :=
  text.IsChain fun c d => ¬ (isUpperLetter c = true ∧ isUpperLetter d = true)

/-- A small letter, then letters and digits, no two capitals side by side. -/
structure RegularCamel (name : Text) : Prop where
  start : name.head?.any isLowerLetter = true
  letters : ∀ c ∈ name, isAlphanumeric c = true
  apart : CapitalsApart name

theorem join_split_after {before : Char} {rest : Text} (first : isAlphanumeric before = true)
    (letters : ∀ c ∈ rest, isAlphanumeric c = true) (apart : CapitalsApart (before :: rest)) :
    joinWords ((splitAfter before rest).map Char.toLower) = rest := by
  induction rest generalizing before with
  | nil => rfl
  | cons c rest ih =>
      obtain ⟨here, others⟩ := List.forall_mem_cons.mp letters
      obtain ⟨differ, tail⟩ := List.isChain_cons_cons.mp apart
      have letter : isNameLetter c = true := by simp [isNameLetter, here]
      obtain ⟨-, lowered, kept, raised⟩ := lower_table c (mem_name_letters letter)
      have onward := ih here others tail
      cases upper : isUpperLetter c with
      | true =>
          -- The capital stands behind a small letter or a digit, so an underscore marks it.
          have single : isUpperLetter before = false := by simpa [upper] using differ
          have small : (isLowerLetter before || isDigit before) = true := by
            simpa [isAlphanumeric, isLetter, single] using first
          have lower : isLowerLetter c.toLower = true := lowered (by simp [isLetter, upper])
          rw [split_after_capital small upper, List.map_cons, List.map_cons]
          rw [show Char.toLower '_' = '_' from rfl, join_words_mark lower, raised upper, onward]
      | false =>
          rw [split_after_small upper, List.map_cons, kept upper,
            join_words_plain (alphanumeric_plain here), onward]

theorem camel_case_restored {name : Text} (regular : RegularCamel name) :
    snakeCase.accepts (toSnake name) = true ∧ toCamel (toSnake name) = name ∧
      toPascal (toSnake name) = toPascal name := by
  obtain ⟨start, letters, apart⟩ := regular
  cases name with
  | nil => cases start
  | cons c rest =>
      have lower : isLowerLetter c = true := start
      have small : (isLowerLetter c || isDigit c) = true := by simp [lower]
      obtain ⟨-, same, first, raised⟩ := small_letter small
      obtain ⟨-, others⟩ := List.forall_mem_cons.mp letters
      have named : ∀ d ∈ c :: rest, isNameLetter d = true := fun d member => by
        simp [isNameLetter, letters d member]
      have snake : toSnake (c :: rest) = c :: (splitAfter c rest).map Char.toLower := by
        rw [to_snake_cons named, same]
      have named' : ∀ d ∈ toSnake (c :: rest), isNameLetter d = true := by
        rw [snake]
        refine List.forall_mem_cons.mpr ⟨named c (by simp), fun d member => ?_⟩
        exact snake_letter_named (snake_tail named d member)
      have joined := join_split_after first others apart
      have plain : joinWords rest = rest := by simpa [joinWords] using join_words_word others []
      rw [snake] at named' ⊢
      refine ⟨accepts_snake lower (snake_tail named), ?_, ?_⟩
      · rw [to_camel_cons named', same, join_words_plain (alphanumeric_plain first), joined]
      · rw [to_pascal_cons named', to_pascal_cons named,
          join_words_plain (alphanumeric_plain raised), joined,
          join_words_plain (alphanumeric_plain raised), plain]

def isPlainWord : Text → Bool
  | [] => false
  | c :: rest => isLowerLetter c && rest.all fun d => isLowerLetter d || isDigit d

/-- Words joined by underscores, those between the first and the last of two letters at least. -/
def RegularSnake (name : Text) : Prop :=
  ∃ words : List Text, name = ['_'].intercalate words ∧ words ≠ [] ∧
    (∀ word ∈ words, isPlainWord word = true) ∧ ∀ word ∈ words.tail.dropLast, 2 ≤ word.length

theorem plain_word_cons {word : Text} (given : isPlainWord word = true) :
    ∃ c rest, word = c :: rest ∧ isLowerLetter c = true ∧
      ∀ d ∈ rest, (isLowerLetter d || isDigit d) = true := by
  cases word with
  | nil => cases given
  | cons c rest =>
      obtain ⟨start, others⟩ := Bool.and_eq_true_iff.mp given
      exact ⟨c, rest, rfl, start, List.all_eq_true.mp others⟩

theorem intercalate_words (word : Text) (words : List Text) :
    ['_'].intercalate (word :: words) = word ++ words.flatMap ('_' :: ·) := by
  induction words generalizing word with
  | nil => simp
  | cons next words ih =>
      rw [List.intercalate_cons_cons, ih, List.flatMap_cons]
      simp

theorem join_words_flat_map {words : List Text} (given : ∀ word ∈ words, isPlainWord word = true) :
    joinWords (words.flatMap ('_' :: ·)) = words.flatMap (List.modifyHead Char.toUpper) := by
  induction words with
  | nil => rfl
  | cons word words ih =>
      obtain ⟨first, others⟩ := List.forall_mem_cons.mp given
      obtain ⟨c, rest, rfl, start, inside⟩ := plain_word_cons first
      have plain := fun d member => (small_letter (inside d member)).2.2.1
      rw [List.flatMap_cons, List.flatMap_cons, List.cons_append, List.cons_append,
        join_words_mark start, join_words_word plain, ih others]
      rfl

theorem lower_small {text : Text} (small : ∀ c ∈ text, (isLowerLetter c || isDigit c) = true) :
    text.map Char.toLower = text :=
  (List.map_congr_left fun c member => (small_letter (small c member)).2.1).trans (List.map_id text)

theorem last_small (before : Char) {rest : Text} (nonempty : rest ≠ [])
    (small : ∀ c ∈ rest, (isLowerLetter c || isDigit c) = true) :
    (isLowerLetter (Text.lastAfter before rest) ||
      isDigit (Text.lastAfter before rest)) = true := by
  obtain ⟨left, last, rfl⟩ := (List.eq_nil_or_concat rest).resolve_left nonempty
  rw [List.concat_eq_append, Text.last_after_append]
  exact small last (by simp)

theorem split_after_flat_map {words : List Text} (given : ∀ word ∈ words, isPlainWord word = true)
    (long : ∀ word ∈ words.dropLast, 2 ≤ word.length) {before : Char}
    (small : (isLowerLetter before || isDigit before) = true) :
    (splitAfter before (words.flatMap (List.modifyHead Char.toUpper))).map Char.toLower =
      words.flatMap ('_' :: ·) := by
  induction words generalizing before with
  | nil => rfl
  | cons word words ih =>
      obtain ⟨first, others⟩ := List.forall_mem_cons.mp given
      obtain ⟨c, rest, rfl, start, inside⟩ := plain_word_cons first
      have letter : isNameLetter c = true := by simp [isNameLetter, isAlphanumeric, isLetter, start]
      obtain ⟨-, raised, restored⟩ := upper_table c (mem_name_letters letter)
      have capital : isUpperLetter c.toUpper = true := raised (by simp [isLetter, start])
      have onward : (splitAfter (Text.lastAfter c.toUpper rest)
          (words.flatMap (List.modifyHead Char.toUpper))).map Char.toLower =
            words.flatMap ('_' :: ·) := by
        cases words with
        | nil => rfl
        | cons next words =>
            rw [List.dropLast_cons_cons] at long
            obtain ⟨two, long⟩ := List.forall_mem_cons.mp long
            have nonempty : rest ≠ [] := by
              rintro rfl
              exact absurd two (by simp)
            exact ih others long (last_small _ nonempty inside)
      rw [List.flatMap_cons, List.modifyHead_cons, List.cons_append,
        split_after_capital small capital,
        split_after_word fun d member => (small_letter (inside d member)).1]
      simp [lower_small inside, onward, restored start]

theorem capital_words {words : List Text} (given : ∀ word ∈ words, isPlainWord word = true) :
    ∀ c ∈ words.flatMap (List.modifyHead Char.toUpper), isAlphanumeric c = true := by
  intro c member
  obtain ⟨word, present, inside⟩ := List.mem_flatMap.mp member
  obtain ⟨d, rest, rfl, start, others⟩ := plain_word_cons (given word present)
  have small : (isLowerLetter d || isDigit d) = true := by simp [start]
  rcases List.mem_cons.mp inside with rfl | later
  · exact (small_letter small).2.2.2
  · exact (small_letter (others c later)).2.2.1

theorem snake_words {words : List Text} (given : ∀ word ∈ words, isPlainWord word = true) :
    ∀ c ∈ words.flatMap ('_' :: ·), isNameLetter c = true := by
  intro c member
  obtain ⟨word, present, inside⟩ := List.mem_flatMap.mp member
  obtain ⟨d, rest, rfl, start, others⟩ := plain_word_cons (given word present)
  rcases List.mem_cons.mp inside with rfl | later
  · decide
  rcases List.mem_cons.mp later with rfl | later
  · simp [isNameLetter, isAlphanumeric, isLetter, start]
  · exact snake_letter_named (by simp [isSnakeLetter, others c later])

theorem snake_case_restored {name : Text} (regular : RegularSnake name) :
    camelCase.accepts (toCamel name) = true ∧ toSnake (toCamel name) = name := by
  obtain ⟨words, rfl, nonempty, given, long⟩ := regular
  obtain ⟨word, words, rfl⟩ := List.exists_cons_of_ne_nil nonempty
  obtain ⟨first, others⟩ := List.forall_mem_cons.mp given
  obtain ⟨c, rest, rfl, start, inside⟩ := plain_word_cons first
  have small : ∀ d ∈ c :: rest, (isLowerLetter d || isDigit d) = true :=
    List.forall_mem_cons.mpr ⟨by simp [start], inside⟩
  have plain : ∀ d ∈ c :: rest, isAlphanumeric d = true := fun d member =>
    (small_letter (small d member)).2.2.1
  obtain ⟨first, inner⟩ := List.forall_mem_cons.mp plain
  have same : c.toLower = c := (small_letter (small c (by simp))).2.1
  have named : ∀ d ∈ c :: rest, isNameLetter d = true := fun d member => by
    simp [isNameLetter, plain d member]
  have letters : ∀ d ∈ c :: (rest ++ words.flatMap ('_' :: ·)), isNameLetter d = true :=
    List.forall_mem_append.mpr ⟨named, snake_words others⟩
  have camel : toCamel (['_'].intercalate ((c :: rest) :: words)) =
      c :: (rest ++ words.flatMap (List.modifyHead Char.toUpper)) := by
    rw [intercalate_words, List.cons_append, to_camel_cons letters, same,
      join_words_plain (alphanumeric_plain first), join_words_word inner,
      join_words_flat_map others]
  have joined : ∀ d ∈ c :: (rest ++ words.flatMap (List.modifyHead Char.toUpper)),
      isAlphanumeric d = true :=
    List.forall_mem_append.mpr ⟨plain, capital_words others⟩
  have letters' : ∀ d ∈ c :: (rest ++ words.flatMap (List.modifyHead Char.toUpper)),
      isNameLetter d = true := fun d member => by
    simp [isNameLetter, joined d member]
  have last := last_small c (List.cons_ne_nil c rest) small
  rw [Text.last_after_cons] at last
  rw [camel]
  refine ⟨accepts_camel start (List.forall_mem_cons.mp joined).2, ?_⟩
  rw [to_snake_cons letters', same,
    split_after_word fun d member => (small_letter (inside d member)).1, List.map_append,
    lower_small inside, split_after_flat_map others long last, intercalate_words]
  rfl

theorem camel_snake_inverse :
    (∀ name, RegularCamel name →
      snakeCase.accepts (toSnake name) = true ∧ toCamel (toSnake name) = name ∧
        toPascal (toSnake name) = toPascal name) ∧
    ∀ name, RegularSnake name →
      camelCase.accepts (toCamel name) = true ∧ toSnake (toCamel name) = name :=
  ⟨fun _ => camel_case_restored, fun _ => snake_case_restored⟩

theorem names_restored :
    let camel := "user2IdX".toList
    let snake := "a_user2_id_x".toList
    (RegularCamel camel ∧ toCamel (toSnake camel) = camel) ∧
      RegularSnake snake ∧ toSnake (toCamel snake) = snake := by
  intro camel snake
  have apart : CapitalsApart camel := by
    unfold CapitalsApart
    decide
  have regular : RegularCamel camel := ⟨by decide, each_of_all (by decide), apart⟩
  have regular' : RegularSnake snake := ⟨["a".toList, "user2".toList, "id".toList, "x".toList],
    by decide, by decide, by decide, by decide⟩
  exact ⟨⟨regular, (camel_snake_inverse.1 camel regular).2.1⟩, regular',
    (camel_snake_inverse.2 snake regular').2⟩

end Inverse

section Renaming

/-- Letters, digits and underscores, no digit first, each underscore before a small letter. -/
structure Renamable (name : Text) : Prop where
  letters : ∀ c ∈ name, isNameLetter c = true
  start : name.head?.any (fun c => isLetter c || c == '_') = true
  marks : ∀ rest, '_' :: rest <:+ name → rest.head?.any isLowerLetter = true

theorem join_words_joined {text : Text} (letters : ∀ c ∈ text, isNameLetter c = true)
    (marks : ∀ rest, '_' :: rest <:+ text → rest.head?.any isLowerLetter = true) :
    ∀ c ∈ joinWords text, isAlphanumeric c = true := by
  fun_induction joinWords text with
  | case1 => simp
  | case2 => exact absurd (marks [] List.suffix_rfl) (by simp)
  | case3 c rest lower ih =>
      have small : (isLowerLetter c || isDigit c) = true := by simp [lower]
      obtain ⟨-, -, raised⟩ := upper_table c (mem_name_letters (letters c (by simp)))
      rw [(raised lower).1]
      refine List.forall_mem_cons.mpr ⟨(small_letter small).2.2.2, ih ?_ ?_⟩
      · exact fun d member => letters d (by simp [member])
      · intro behind suffix
        exact marks behind ((suffix.trans (List.suffix_cons c rest)).trans (List.suffix_cons '_' _))
  | case4 c rest upper ih => exact absurd (marks (c :: rest) List.suffix_rfl) upper
  | case5 c rest single marked ih =>
      have plain : c ≠ '_' := by
        rintro rfl
        cases rest with
        | nil => exact single rfl rfl
        | cons d rest => exact marked d rest rfl rfl
      have first : isAlphanumeric c = true := by
        simpa [isNameLetter, plain] using letters c (by simp)
      refine List.forall_mem_cons.mpr ⟨first, ih ?_ ?_⟩
      · exact fun d member => letters d (by simp [member])
      · exact fun behind suffix => marks behind (suffix.trans (List.suffix_cons c rest))

section Starts

variable {c : Char} {rest : Text} (renamable : Renamable (c :: rest))
include renamable

theorem upper_case_reached : upperCase.accepts (upperCase.convert (c :: rest)) = true := by
  have letters : ∀ d ∈ toSnake (c :: rest), isNameLetter d = true := by
    rw [to_snake_cons renamable.letters]
    refine List.forall_mem_cons.mpr ⟨?_, fun d member => ?_⟩
    · have letter := lower_table c (mem_name_letters (renamable.letters c (by simp)))
      exact snake_letter_named letter.1
    · exact snake_letter_named (snake_tail renamable.letters d member)
  have raised : ∀ d ∈ (toSnake (c :: rest)).map Char.toUpper, isLowerLetter d = false := by
    intro d member
    obtain ⟨e, present, rfl⟩ := List.mem_map.mp member
    exact (upper_table e (mem_name_letters (letters e present))).1
  rw [convert, upper_letters letters]
  exact List.all_eq_true.mpr fun d member => by simp [raised d member]

theorem letter_reaches (letter : isLetter c = true) (style : NamingStyle) :
    style.accepts (style.convert (c :: rest)) = true := by
  have named := mem_name_letters (renamable.letters c (by simp))
  obtain ⟨-, lower, -⟩ := lower_table c named
  obtain ⟨-, upper, -⟩ := upper_table c named
  have others : ∀ d ∈ joinWords rest, isAlphanumeric d = true :=
    join_words_joined (List.forall_mem_cons.mp renamable.letters).2 fun behind suffix =>
      renamable.marks behind (suffix.trans (List.suffix_cons c rest))
  cases style with
  | pascalCase =>
      have capital := upper letter
      have plain : c.toUpper ≠ '_' := Text.ne_of_class capital (by decide)
      rw [convert, to_pascal_cons renamable.letters, join_words_plain plain]
      exact accepts_pascal capital others
  | camelCase =>
      have small := lower letter
      have plain : c.toLower ≠ '_' := Text.ne_of_class small (by decide)
      rw [convert, to_camel_cons renamable.letters, join_words_plain plain]
      exact accepts_camel small others
  | upperCase => exact upper_case_reached renamable
  | snakeCase =>
      rw [convert, to_snake_cons renamable.letters]
      exact accepts_snake (lower letter) (snake_tail renamable.letters)

-- Joining makes the letter behind a leading underscore a capital, whatever case was asked for.
theorem underscore_joined (mark : c = '_') :
    ∃ d others, joinWords (c :: rest) = d :: others ∧ isUpperLetter d = true ∧
      ∀ e ∈ others, isAlphanumeric e = true := by
  subst mark
  have joined := join_words_joined renamable.letters renamable.marks
  have lower := renamable.marks rest List.suffix_rfl
  cases rest with
  | nil => cases lower
  | cons d rest =>
      have letter : isLowerLetter d = true := lower
      obtain ⟨-, raised, -⟩ := upper_table d (mem_name_letters (renamable.letters d (by simp)))
      rw [join_words_mark letter] at joined ⊢
      exact ⟨_, _, rfl, raised (by simp [isLetter, letter]), (List.forall_mem_cons.mp joined).2⟩

theorem underscore_reaches (mark : c = '_') (style : NamingStyle) :
    style.accepts (style.convert (c :: rest)) = true ↔
      style = .pascalCase ∨ style = .upperCase := by
  obtain ⟨d, others, joined, capital, plain⟩ := underscore_joined renamable mark
  have fixed : c.toUpper = c ∧ c.toLower = c := by subst mark; decide
  have refused : isLowerLetter d = false := by
    by_contra lower
    have small : (isLowerLetter d || isDigit d) = true := by
      rw [Bool.not_eq_false] at lower
      simp [lower]
    rw [(small_letter small).1] at capital
    cases capital
  cases style with
  | pascalCase =>
      rw [convert, to_pascal_cons renamable.letters, fixed.1, joined]
      simp [accepts_pascal capital plain]
  | camelCase =>
      rw [convert, to_camel_cons renamable.letters, fixed.2, joined]
      simp [accepts, startsAndContinues, refused]
  | upperCase => simp [upper_case_reached renamable]
  | snakeCase =>
      rw [convert, to_snake_cons renamable.letters, fixed.2, mark]
      simp [accepts, startsAndContinues, show isLowerLetter '_' = false by decide]

end Starts

/-- What a name becomes follows the style, except that names in camel case and snake case start with a
small letter, which their conversions do not give for a leading underscore. -/
theorem renaming_follows_style (name : Text) (renamable : Renamable name) (style : NamingStyle) :
    style.accepts (style.convert name) = true ↔
      style = .pascalCase ∨ style = .upperCase ∨ name.head?.any isLetter = true := by
  cases name with
  | nil => cases renamable.start
  | cons c rest =>
      have start : isLetter c = true ∨ c = '_' := by simpa using renamable.start
      rcases start with letter | mark
      · simp [letter_reaches renamable letter, letter]
      · rw [underscore_reaches renamable mark]
        simp [mark, show isLetter '_' = false by decide]

theorem hidden_name_renamable : Renamable "_innerList_x".toList := by
  refine ⟨each_of_all (by decide), by decide, fun rest suffix => ?_⟩
  have checked : ∀ text ∈ "_innerList_x".toList.tails, text.head? = some '_' →
      text.tail.head?.any isLowerLetter = true := by decide
  exact checked _ ((List.mem_tails _ _).mpr suffix) rfl

theorem hidden_name_capitalized :
    let name := "_innerList_x".toList
    Renamable name ∧ pascalCase.accepts (pascalCase.convert name) = true ∧
      ¬ snakeCase.accepts (snakeCase.convert name) = true := by
  intro name
  have follows := renaming_follows_style name hidden_name_renamable
  exact ⟨hidden_name_renamable, (follows .pascalCase).mpr (Or.inl rfl),
    fun accepted => absurd ((follows .snakeCase).mp accepted) (by decide)⟩

/-- Joining turns the underscore and the letter behind it into a capital, so the name suggested for
camel case starts with one. -/
theorem hidden_name_misnamed :
    ¬ ∀ name, Renamable name → ∀ style : NamingStyle,
      style.accepts (style.convert name) = true := by
  intro reached
  have accepted := reached "_innerList_x".toList hidden_name_renamable .camelCase
  exact absurd accepted (by decide +kernel)

end Renaming
end PatternInspector.TypeScript.NamingStyle
