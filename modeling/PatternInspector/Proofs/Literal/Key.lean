import PatternInspector.Literal.Entry
import PatternInspector.Proofs.Text.Ways

/-!
How the key of a member is read: a name or a quoted text, taken whole, up to the mark behind it.
-/
namespace PatternInspector.Literal

open PatternInspector.Text (Reader Avoids)
open PatternInspector.Text.Reader

section Names

def isIdentifier : Text → Bool
  | [] => false
  | c :: rest => Text.isNameStart c && rest.all Text.isNamePart

theorem identifier_parts {name : Text} (valid : isIdentifier name = true) :
    ∀ c ∈ name, Text.isNamePart c = true := by
  cases name with
  | nil => simp
  | cons c rest =>
      simp only [isIdentifier, Bool.and_eq_true, List.all_eq_true] at valid
      intro d member
      rcases List.mem_cons.mp member with rfl | member
      · exact Text.name_start_part valid.1
      · exact valid.2 d member

theorem identifier_starts {name : Text} (valid : isIdentifier name = true) :
    ∃ c rest, name = c :: rest ∧ Text.isNameStart c = true := by
  cases name with
  | nil => simp [isIdentifier] at valid
  | cons c rest =>
      simp only [isIdentifier, Bool.and_eq_true] at valid
      exact ⟨c, rest, rfl, valid.1⟩

theorem reads_identifier {name rest : Text} {before : Option Char}
    (valid : isIdentifier name = true) (ends : Avoids Text.isNamePart rest) :
    Reads (matched Reader.name) before name rest name := by
  cases name with
  | nil => simp [isIdentifier] at valid
  | cons c inside =>
      simp only [isIdentifier, Bool.and_eq_true, List.all_eq_true] at valid
      exact reads_matched (reads_name valid.1 valid.2 ends)

end Names

section Modifiers

theorem modifier_letters (word : String) (modifier : word ∈ modifierWords) :
    ∀ c ∈ word.toList, Text.isNamePart c = true := by
  simp only [modifierWords, List.mem_cons, List.not_mem_nil, or_false] at modifier
  rcases modifier with rfl | rfl | rfl | rfl | rfl <;> exact Text.each_of_all (by decide)

-- A modifier that the name starts with is followed by the rest of the name or by the mark behind
-- it, never by white space.
theorem modifiers_refuse {name rest : Text} (parts : ∀ c ∈ name, Text.isNamePart c = true)
    (ends : Avoids Text.isNamePart rest) (tight : Avoids Text.isBlank rest) :
    Fails (do Reader.words modifierWords; Reader.blanks1) (name ++ rest) := by
  refine fails_after fun position before way member => ?_
  obtain ⟨_, ⟨word, modifier, rfl⟩, split, _⟩ := covers_words modifierWords _ way member
  have letters := modifier_letters word modifier
  have tight' : Avoids Text.isBlank way.2.rest := by
    rcases List.append_eq_append_iff.mp split with ⟨more, longer, behind⟩ | ⟨more, shorter, behind⟩
    · cases more with
      | nil => rwa [show rest = way.2.rest from behind] at tight
      | cons c more =>
          have part : Text.isNamePart c = true := letters c (by simp [longer])
          have refused := ends c (by simp [behind])
          simp [part] at refused
    · rw [behind]
      refine Text.avoids_append (fun c head => ?_) fun _ => tight
      exact Text.name_part_not_blank (parts c (by rw [shorter]; simp [List.mem_of_head? head]))
  exact fails_many1 tight' _ _

theorem quote_no_modifier {quote : Char} (mark : Text.isQuote quote = true) (rest : Text) :
    Fails (do Reader.words modifierWords; Reader.blanks1) (quote :: rest) := by
  refine fails_bind (fails_of_covers (covers_words modifierWords) ?_) _
  rintro passed after _ split ⟨word, modifier, rfl⟩
  simp only [modifierWords, List.mem_cons, List.not_mem_nil, or_false] at modifier
  rcases modifier with rfl | rfl | rfl | rfl | rfl <;>
    exact absurd mark (by rw [(List.cons.inj split).1]; decide)

end Modifiers

section Keys

theorem reads_quoted_key {quote c : Char} {key rest : Text} {before : Option Char}
    (mark : Text.isQuote quote = true) (inside : quote ∉ key) :
    Reads quotedKey before (quote :: (c :: key ++ [quote])) rest (c :: key) := by
  have shortest : Skips (matched do let _ ← Reader.char fun _ => true; Reader.few fun _ => true)
      (some quote) ([c] ++ key) ([quote] ++ rest) ([c] ++ key) (Within key ([quote] ++ rest)) :=
    skips_matched (skips_after _ (reads_char rfl) (skips_few fun _ _ => rfl))
  refine reads_bind (reads_char mark) (skips_bind _ shortest ?_
    (reads_then_pure (reads_single quote) fun _ => c :: key))
  rintro value _ ⟨left, right, rfl, nonempty, rfl⟩
  obtain ⟨d, right, rfl⟩ := List.exists_cons_of_ne_nil nonempty
  have different : d ≠ quote := fun same => inside (by simp [same])
  exact fails_bind (fails_single (Text.avoids_cons (by simpa using different) _)) _

def keyTail (key : Text) : Reader (Text × Option Char) := do
  Reader.blanks
  let _ ← Reader.optional (Reader.single '?')
  Reader.blanks
  let mark ← keyEnd
  return (key, mark)

variable {before : Option Char} {rest : Text}

theorem reads_key_mark {mark : Char} (known : (mark == ':' || mark == '(' || mark == '<') = true) :
    Reads keyEnd before [mark] rest (some mark) :=
  reads_or_left (reads_then_pure (reads_char known) some) _

theorem reads_key_end : Reads keyEnd before [] [] none :=
  reads_or_right (fails_bind (fails_char (Text.avoids_nil _)) _)
    (reads_then_pure reads_at_end fun _ => none)

theorem reads_key_tail {last : Text} {mark : Option Char} (key : Text)
    (tight : Avoids Text.isBlank (last ++ rest)) (certain : Avoids (· == '?') (last ++ rest))
    (ends : Reads keyEnd before last rest mark) :
    Reads (keyTail key) before last rest (key, mark) := by
  have blank : ∀ before, Reads Reader.blanks before [] (last ++ rest) () :=
    fun before => reads_blanks (by simp) tight
  exact reads_bind (blank _) (reads_bind (reads_optional_none (fails_single certain))
    (reads_bind (blank _) (reads_then_pure ends fun mark => (key, mark))))

theorem reads_key_question {last : Text} {mark : Option Char} (key : Text)
    (tight : Avoids Text.isBlank (last ++ rest)) (ends : Reads keyEnd (some '?') last rest mark) :
    Reads (keyTail key) before ('?' :: last) rest (key, mark) := by
  have blank : Reads Reader.blanks (some '?') [] (last ++ rest) () := reads_blanks (by simp) tight
  have none : Reads Reader.blanks before [] ('?' :: last ++ rest) () :=
    reads_blanks (by simp) (Text.avoids_cons (by decide) _)
  exact reads_bind none (reads_bind (reads_optional_some (reads_single '?'))
    (reads_bind blank (reads_then_pure ends fun mark => (key, mark))))

theorem reads_member_key (limit : Nat) {written last : Text} {key : Text} {mark : Option Char}
    (unmodified : Fails (do Reader.words modifierWords; Reader.blanks1) (written ++ (last ++ rest)))
    (plain : Avoids (· == '*') (written ++ (last ++ rest)))
    (tight : Avoids Text.isBlank (written ++ (last ++ rest)))
    (keyed : Reads (orElse quotedKey (matched Reader.name)) none written (last ++ rest) key)
    (ends : Reads (keyTail key) (Text.beforeEnd none written) last rest (key, mark)) :
    Reads (memberKey limit) none (written ++ last) rest (key, mark) := by
  have none : Reads (repeated (do Reader.words modifierWords; Reader.blanks1) limit) Option.none []
      (written ++ last ++ rest) () := reads_repeated_none (by simpa using unmodified) limit
  have noStar : Reads (optional (Reader.single '*')) Option.none [] (written ++ last ++ rest)
      Option.none := reads_optional_none (fails_single (by simpa using plain))
  have noBlank : Reads Reader.blanks Option.none [] (written ++ last ++ rest) () :=
    reads_blanks (by simp) (by simpa using tight)
  change Reads _ _ ([] ++ ([] ++ ([] ++ (written ++ last)))) _ _
  exact reads_bind none (reads_bind noStar (reads_bind noBlank (reads_bind keyed ends)))

-- A computed key: none of the parts before the key can pass over the bracket, and no key starts
-- with it.
theorem bracket_no_key (limit : Nat) (rest : Text) : Fails (memberKey limit) ('[' :: rest) := by
  have unmodified : Fails (do Reader.words modifierWords; Reader.blanks1) ('[' :: rest) :=
    @modifiers_refuse [] ('[' :: rest) (by simp) (Text.avoids_cons (by decide) rest)
      (Text.avoids_cons (by decide) rest)
  have noKey : Fails (orElse quotedKey (matched Reader.name)) ('[' :: rest) := by
    refine fails_or (fails_bind (fails_char ?_) _) (fails_matched (fails_bind (fails_char ?_) _))
    · exact Text.avoids_cons (by decide) rest
    · exact Text.avoids_cons (by decide) rest
  refine fails_idle (idle_repeated unmodified limit) fun _ => ?_
  refine fails_idle (idle_optional (fails_single (Text.avoids_cons (by decide) rest))) fun _ => ?_
  exact fails_idle (idle_many (Text.avoids_cons (by decide) rest)) fun _ => fails_bind noKey _

end Keys

end PatternInspector.Literal
