import PatternInspector.Component.Split
import PatternInspector.Proofs.Text.Basic
import PatternInspector.Proofs.Text.Search

/-!
Open tags and end tags of blocks as they are written, and how they are read: an open tag gives back
its name, its attributes in order and whether it closes itself, and an end tag is found by its name
in any letter case.
-/
namespace PatternInspector.Component

open PatternInspector.Text (Reader Avoids)
open PatternInspector.Text.Reader

section Written

def lowerLetters : Text := "abcdefghijklmnopqrstuvwxyz".toList

def tagLetters : Text := lowerLetters ++ "0123456789-".toList

structure TagName where
  first : Char
  others : Text
  starts : first ∈ lowerLetters
  inside : ∀ c ∈ others, c ∈ tagLetters

def TagName.text (tag : TagName) : Text := tag.first :: tag.others

def isAttributeLetter (c : Char) : Bool := Text.isWord c || "-:@.".toList.contains c

structure WrittenAttribute where
  gap : Text
  name : Text
  value : Option Text
  spaced : gap ≠ [] ∧ ∀ c ∈ gap, Text.isBlank c = true
  named : name ≠ [] ∧ ∀ c ∈ name, isAttributeLetter c = true
  quotable : ∀ text, value = some text → ∀ c ∈ text, c ≠ '"' ∧ c ≠ '>'

namespace WrittenAttribute

def assigned (given : WrittenAttribute) : Text :=
  match given.value with
  | none => []
  | some text => '=' :: '"' :: (text ++ ['"'])

def render (given : WrittenAttribute) : Text :=
  given.gap ++ (given.name ++ given.assigned)

def toAttribute (given : WrittenAttribute) : Attribute :=
  ⟨String.ofList given.name, given.value.map String.ofList⟩

end WrittenAttribute

structure Opening where
  tag : TagName
  attributes : List WrittenAttribute
  padding : Text
  distinct : (attributes.map (·.name)).Nodup
  white : ∀ c ∈ padding, Text.isBlank c = true

def tagMark (selfClosing : Bool) : Text := if selfClosing then ['/', '>'] else ['>']

def Opening.render (opening : Opening) (selfClosing : Bool) : Text :=
  '<' :: (opening.tag.text ++ (opening.attributes.flatMap WrittenAttribute.render ++
    (opening.padding ++ tagMark selfClosing)))

end Written

section Attributes

variable {before : Option Char} {rest : Text}

def isNameLetter (c : Char) : Bool := !Text.isBlank c && c != '=' && c != '/' && c != '>'

theorem attribute_letter {c : Char} (letter : isAttributeLetter c = true) :
    isNameLetter c = true ∧ c ≠ '/' ∧ Text.isBlank c = false ∧ c ≠ '>' ∧ c ≠ '=' := by
  have slash := Text.ne_of_class letter (d := '/') (by decide)
  have angle := Text.ne_of_class letter (d := '>') (by decide)
  have equal := Text.ne_of_class letter (d := '=') (by decide)
  have dark : Text.isBlank c = false := by
    simp only [isAttributeLetter, Bool.or_eq_true] at letter
    rcases letter with word | mark
    · exact Text.word_not_blank word
    · have member : c ∈ "-:@.".toList := by simpa using mark
      have all : ∀ d ∈ "-:@.".toList, Text.isBlank d = false := Text.each_of_all (by decide)
      exact all c member
  exact ⟨by simp [isNameLetter, dark, slash, angle, equal], slash, dark, angle, equal⟩

-- However much white space is passed, no `=` follows.
theorem fails_attribute_value (unassigned : Avoids (· == '=') (Text.dropBlanks rest)) :
    Fails attributeValue rest := by
  refine fails_covered (covers_many Text.isBlank) fun passed after _ split white => ?_
  refine fails_bind (fails_single ?_) _
  rw [split, Text.drop_blanks_append white] at unassigned
  intro c head
  cases blank : Text.isBlank c with
  | true => simpa using Text.ne_of_class blank (by decide)
  | false =>
      have kept := Text.drop_blanks_avoids fun d other =>
        Option.some.inj (other.symm.trans head) ▸ blank
      exact (kept ▸ unassigned) c head

/-- Text behind an attribute that neither goes on with its name nor gives it a value. -/
structure AttributeEnd (rest : Text) : Prop where
  unnamed : Avoids isNameLetter rest
  unassigned : Avoids (· == '=') (Text.dropBlanks rest)

theorem reads_assigned (given : WrittenAttribute) (ends : AttributeEnd rest) :
    Reads (optional attributeValue) before given.assigned rest given.value := by
  have quotable := given.quotable
  unfold WrittenAttribute.assigned
  cases value : given.value with
  | none => exact reads_optional_none (fails_attribute_value ends.unassigned)
  | some text =>
      refine reads_optional_some ?_
      have quoted : Reads (do
          single '"'
          let value ← matched (many (· != '"'))
          single '"'
          return value) (some '=') ('"' :: (text ++ ['"'])) rest text := by
        have inside : ∀ c ∈ text, (c != '"') = true := fun c member => by
          simpa using (quotable text value c member).1
        refine reads_bind (reads_single '"') ?_
        refine reads_bind (reads_matched (reads_many inside (Text.avoids_cons (by decide) _))) ?_
        exact reads_then_pure (reads_single '"') fun _ => text
      change Reads attributeValue before ([] ++ (['='] ++ ([] ++ ('"' :: (text ++ ['"']))))) rest text
      refine reads_bind (reads_blanks (by simp) (Text.avoids_cons (by decide) _)) ?_
      refine reads_bind (reads_single '=') ?_
      refine reads_bind (reads_blanks (by simp) (Text.avoids_cons (by decide) _)) ?_
      exact reads_or_left quoted _

theorem assigned_unnamed (given : WrittenAttribute) (ends : AttributeEnd rest) :
    Avoids isNameLetter (given.assigned ++ rest) := by
  unfold WrittenAttribute.assigned
  split
  next => exact ends.unnamed
  next => exact Text.avoids_cons (by decide) _

theorem reads_attribute (given : WrittenAttribute) (ends : AttributeEnd rest) :
    Reads blockAttribute before (given.name ++ given.assigned) rest
      given.toAttribute := by
  obtain ⟨nonempty, letters⟩ := given.named
  obtain ⟨c, others, same⟩ := List.exists_cons_of_ne_nil nonempty
  rw [same] at letters
  have name : Reads (matched (many1 isNameLetter)) before (c :: others) (given.assigned ++ rest)
      (c :: others) :=
    reads_matched (reads_many1 (attribute_letter (letters c (by simp))).1
      (fun d member => (attribute_letter (letters d (by simp [member]))).1)
      (assigned_unnamed given ends))
  rw [WrittenAttribute.toAttribute, same]
  exact reads_bind name (reads_then_pure (reads_assigned given ends) _)

theorem attribute_start (text : Text) (avoids : Avoids isNameLetter text) :
    Fails blockAttribute text :=
  fails_bind (fails_matched (fails_many1 avoids)) _

theorem attributes_end (attributes : List WrittenAttribute) :
    AttributeEnd (attributes.flatMap WrittenAttribute.render) := by
  cases attributes with
  | nil => exact ⟨Text.avoids_nil _, Text.avoids_nil _⟩
  | cons given others =>
      obtain ⟨nonempty, white⟩ := given.spaced
      obtain ⟨present, letters⟩ := given.named
      obtain ⟨c, gap, spaces⟩ := List.exists_cons_of_ne_nil nonempty
      obtain ⟨d, name, named⟩ := List.exists_cons_of_ne_nil present
      obtain ⟨_, _, dark, _, equal⟩ := attribute_letter (letters d (by simp [named]))
      rw [List.flatMap_cons, WrittenAttribute.render, List.append_assoc]
      constructor
      · rw [spaces]
        exact Text.avoids_cons (by simp [isNameLetter, white c (by simp [spaces])]) _
      · rw [Text.drop_blanks_append white, named, List.append_assoc, List.cons_append,
          Text.drop_blanks_avoids (Text.avoids_cons dark _)]
        exact Text.avoids_cons (by simpa using equal) _

theorem find_attributes (attributes : List WrittenAttribute) (position : Nat)
    (before : Option Char) :
    (searchAll blockAttribute position before 0
      (attributes.flatMap WrittenAttribute.render)).map (·.value) =
      attributes.map WrittenAttribute.toAttribute := by
  induction attributes generalizing position before with
  | nil => rfl
  | cons given others ih =>
      have gap : Quiet blockAttribute given.gap
          ((given.name ++ given.assigned) ++ others.flatMap WrittenAttribute.render) :=
        quiet_of_class attribute_start
          (fun c member => by simp [isNameLetter, given.spaced.2 c member]) _
      have present : given.name ++ given.assigned ≠ [] := by simp [given.named.1]
      rw [List.flatMap_cons, WrittenAttribute.render, List.append_assoc, search_all_quiet gap,
        search_all_here (reads_attribute given (attributes_end others)) present, List.map_cons, ih,
        List.map_cons]

theorem find_blanks {padding : Text} (white : ∀ c ∈ padding, Text.isBlank c = true) :
    findAll blockAttribute padding = [] := by
  have quiet : Quiet blockAttribute padding [] :=
    quiet_of_class attribute_start (fun c member => by simp [isNameLetter, white c member]) _
  have passed := search_all_quiet quiet 0 none
  rw [List.append_nil] at passed
  exact passed

-- Distinct names never replace one another, so setting them one by one appends them.
theorem set_attributes (known added : List Attribute)
    (distinct : ((known ++ added).map (·.name)).Nodup) :
    added.foldl setAttribute known = known ++ added := by
  induction added generalizing known with
  | nil => simp
  | cons first others ih =>
      have fresh : known.any (·.name == first.name) = false := by
        rw [List.any_eq_false]
        intro existing member same
        rw [List.map_append, List.nodup_append] at distinct
        exact distinct.2.2 _ (List.mem_map_of_mem member) first.name (by simp) (by simpa using same)
      rw [List.foldl_cons, setAttribute, fresh, if_neg (by decide), ih _ (by simpa using distinct)]
      simp

theorem attribute_names_distinct {attributes : List WrittenAttribute}
    (distinct : (attributes.map (·.name)).Nodup) :
    ((attributes.map WrittenAttribute.toAttribute).map (·.name)).Nodup := by
  have names : (attributes.map WrittenAttribute.toAttribute).map (·.name) =
      (attributes.map (·.name)).map String.ofList := by simp [WrittenAttribute.toAttribute]
  rw [names]
  refine List.Pairwise.map _ (fun one two differ same => ?_) distinct
  exact differ (String.ofList_injective same)

theorem parse_attributes {attributes : List WrittenAttribute}
    (distinct : (attributes.map (·.name)).Nodup) :
    parseAttributes (attributes.flatMap WrittenAttribute.render) =
      attributes.map WrittenAttribute.toAttribute := by
  calc parseAttributes (attributes.flatMap WrittenAttribute.render)
    _ = ((findAll blockAttribute (attributes.flatMap WrittenAttribute.render)).map
          (·.value)).foldl setAttribute [] := List.foldl_map.symm
    _ = (attributes.map WrittenAttribute.toAttribute).foldl setAttribute [] := by
      rw [findAll, find_attributes]
    _ = attributes.map WrittenAttribute.toAttribute :=
      set_attributes [] _ (attribute_names_distinct distinct)

theorem parse_blanks {padding : Text} (white : ∀ c ∈ padding, Text.isBlank c = true) :
    parseAttributes padding = [] := by
  rw [parseAttributes, find_blanks white]
  rfl

end Attributes

section OpenTags

variable {before : Option Char} {rest : Text}

def tagEnd (tag attributes : Text) : Reader OpenTag := do
  Reader.blanks
  let slash ← Reader.optional (Reader.single '/')
  Reader.single '>'
  return ⟨Text.lower tag, attributes, slash.isSome⟩

theorem reads_tag_end (tag attributes padding : Text)
    (white : ∀ c ∈ padding, Text.isBlank c = true) (selfClosing : Bool) :
    Reads (tagEnd tag attributes) before (padding ++ tagMark selfClosing) rest
      ⟨Text.lower tag, attributes, selfClosing⟩ := by
  cases selfClosing with
  | true =>
      refine reads_bind (reads_blanks white (Text.avoids_cons (by decide) _)) ?_
      refine reads_bind (reads_optional_some (reads_single '/')) ?_
      exact reads_then_pure (reads_single '>') _
  | false =>
      refine reads_bind (reads_blanks white (Text.avoids_cons (by decide) _)) ?_
      change Reads _ _ ([] ++ ['>']) _ _
      refine reads_bind (reads_optional_none (fails_single (Text.avoids_cons (by decide) _))) ?_
      exact reads_then_pure (reads_single '>') _

theorem covers_slash :
    Covers (optional (single '/')) fun passed _ => passed = ['/'] ∨ passed = [] := by
  refine covers_mono (covers_or (covers_bind (covers_single '/') fun _ => covers_pure _)
    (covers_pure _)) ?_
  rintro passed _ (⟨left, right, _, rfl, rfl, rfl, _⟩ | ⟨rfl, _⟩)
  · exact Or.inl rfl
  · exact Or.inr rfl

theorem covers_tag_end (tag attributes : Text) :
    Covers (tagEnd tag attributes) fun passed _ => '>' ∈ passed ∧
      ∀ c ∈ passed, Text.isBlank c = true ∨ c = '/' ∨ c = '>' := by
  refine covers_mono (covers_bind (covers_many Text.isBlank) fun _ =>
    covers_bind covers_slash fun _ => covers_bind (covers_single '>') fun _ => covers_pure _) ?_
  rintro _ _ ⟨white, _, _, rfl, blank, mark, _, _, rfl, marked, _, _, _, rfl, rfl, rfl, _⟩
  refine ⟨by simp, fun c member => ?_⟩
  rcases marked with rfl | rfl <;> simp at member <;> grind

-- A tag does not end before the last mark of its attributes, as only white space and a slash can
-- stand in front of its `>`.
theorem fails_tag_end (tag attributes : Text) {c : Char} {right : Text} (present : c ∈ right)
    (dark : Text.isBlank c = false) (slash : c ≠ '/') (inside : '>' ∉ right) (rest : Text) :
    Fails (tagEnd tag attributes) (right ++ rest) := by
  refine fails_of_covers (covers_tag_end tag attributes) ?_
  rintro passed after _ split ⟨closing, marks⟩
  rcases List.append_eq_append_iff.mp split with ⟨more, rfl, _⟩ | ⟨more, rfl, _⟩
  · rcases marks c (by simp [present]) with blank | same | same
    · exact absurd blank (by simp [dark])
    · exact slash same
    · exact inside (same ▸ present)
  · exact inside (by simp [closing])

theorem attribute_last (given : WrittenAttribute) :
    ∃ left c, given.name ++ given.assigned = left ++ [c] ∧ Text.isBlank c = false ∧ c ≠ '/' := by
  unfold WrittenAttribute.assigned
  split
  next =>
    obtain ⟨nonempty, letters⟩ := given.named
    obtain ⟨_, slash, dark, _⟩ := attribute_letter (letters _ (List.getLast_mem nonempty))
    refine ⟨given.name.dropLast, given.name.getLast nonempty, ?_, dark, slash⟩
    rw [List.append_nil, List.dropLast_concat_getLast]
  next text _ =>
    exact ⟨given.name ++ '=' :: '"' :: text, '"', by simp, by decide, by decide⟩

theorem attributes_last (given : WrittenAttribute) (others : List WrittenAttribute) :
    ∃ left c, given.name ++ given.assigned ++ others.flatMap WrittenAttribute.render =
      left ++ [c] ∧ Text.isBlank c = false ∧ c ≠ '/' := by
  induction others generalizing given with
  | nil => simpa using attribute_last given
  | cons next others ih =>
      obtain ⟨left, c, split, dark, slash⟩ := ih next
      refine ⟨given.name ++ given.assigned ++ (next.gap ++ left), c, ?_, dark, slash⟩
      rw [List.flatMap_cons, WrittenAttribute.render, List.append_assoc next.gap, split]
      simp

theorem attribute_inside (given : WrittenAttribute) : '>' ∉ given.render := by
  have gap : '>' ∉ given.gap := fun member =>
    absurd (given.spaced.2 _ member) (by decide)
  have name : '>' ∉ given.name := fun member =>
    (attribute_letter (given.named.2 _ member)).2.2.2.1 rfl
  have assigned : '>' ∉ given.assigned := by
    unfold WrittenAttribute.assigned
    split
    next => simp
    next text value =>
      have free : '>' ∉ text := fun member => (given.quotable text value _ member).2 rfl
      simpa using free
  simp [WrittenAttribute.render, gap, name, assigned]

theorem attributes_inside (attributes : List WrittenAttribute) :
    '>' ∉ attributes.flatMap WrittenAttribute.render := by
  simp only [List.mem_flatMap, not_exists, not_and]
  exact fun given _ => attribute_inside given

def tagRest (tag : Text) : Reader OpenTag := do
  let attributes ← Reader.matched (Reader.optional do
    Reader.blanks1
    Reader.few (· != '>'))
  tagEnd tag attributes

theorem tag_mark_dark (selfClosing : Bool) (rest : Text) :
    Avoids Text.isBlank (tagMark selfClosing ++ rest) := by
  cases selfClosing <;> exact Text.avoids_cons (by decide) _

theorem reads_tag_bare (tag : Text) {padding : Text}
    (white : ∀ c ∈ padding, Text.isBlank c = true) (selfClosing : Bool) :
    Reads (tagRest tag) before (padding ++ tagMark selfClosing) rest
      ⟨Text.lower tag, padding, selfClosing⟩ := by
  cases padding with
  | nil =>
      have none : Fails (do Reader.blanks1; Reader.few (· != '>'))
          (tagMark selfClosing ++ rest) :=
        fails_bind (fails_many1 (tag_mark_dark selfClosing rest)) _
      exact reads_bind (reads_matched (reads_optional_none none))
        (reads_tag_end tag [] [] (by simp) selfClosing)
  | cons c padding =>
      have blanks : Reads blanks1 before (c :: padding) (tagMark selfClosing ++ rest) () :=
        reads_many1 (white c (by simp)) (fun d member => white d (by simp [member]))
          (tag_mark_dark selfClosing rest)
      have spaced : Reads (do Reader.blanks1; Reader.few (· != '>')) before (c :: padding ++ [])
          (tagMark selfClosing ++ rest) () := reads_bind blanks reads_few_none
      rw [List.append_nil] at spaced
      exact reads_bind (reads_matched (reads_optional_some spaced))
        (reads_tag_end tag (c :: padding) [] (by simp) selfClosing)

-- The lazy read stops at every place within the attributes before it stops behind them, and at none
-- of these places does a tag end.
theorem reads_tag_attributes (tag : Text) (given : WrittenAttribute)
    (others : List WrittenAttribute) {padding : Text}
    (white : ∀ c ∈ padding, Text.isBlank c = true) (selfClosing : Bool) :
    Reads (tagRest tag) before
      ((given :: others).flatMap WrittenAttribute.render ++ (padding ++ tagMark selfClosing)) rest
      ⟨Text.lower tag, (given :: others).flatMap WrittenAttribute.render, selfClosing⟩ := by
  obtain ⟨nonempty, blank⟩ := given.spaced
  obtain ⟨c, gap, spaces⟩ := List.exists_cons_of_ne_nil nonempty
  obtain ⟨left, last, split, dark, slash⟩ := attributes_last given others
  have shape : (given :: others).flatMap WrittenAttribute.render =
      given.gap ++ (left ++ [last]) := by
    rw [← split, List.flatMap_cons, WrittenAttribute.render]
    simp
  have inside : '>' ∉ left ++ [last] := by
    have whole := attributes_inside (given :: others)
    rw [shape, List.mem_append, not_or] at whole
    exact whole.2
  have named : Avoids Text.isBlank (left ++ [last] ++ (padding ++ tagMark selfClosing ++ rest)) := by
    obtain ⟨present, letters⟩ := given.named
    obtain ⟨d, name, same⟩ := List.exists_cons_of_ne_nil present
    rw [← split, same]
    exact Text.avoids_cons (attribute_letter (letters d (by simp [same]))).2.2.1 _
  have blanks : Reads blanks1 before given.gap
      (left ++ [last] ++ (padding ++ tagMark selfClosing ++ rest)) () := by
    rw [spaces] at blank ⊢
    exact reads_many1 (blank c (by simp)) (fun d member => blank d (by simp [member])) named
  have reach : ∀ d ∈ left ++ [last], (d != '>') = true := fun d member => by
    simpa using fun same : d = '>' => inside (same ▸ member)
  rw [shape]
  refine skips_bind _ (skips_matched (skips_optional (skips_after _ blanks (skips_few reach)))) ?_
    (reads_tag_end tag _ padding white selfClosing)
  intro attributes text within
  obtain ⟨right, rfl, suffix⟩ := within_last within
  refine fails_tag_end tag attributes (by simp) dark slash (fun member => inside ?_) _
  rcases List.mem_append.mp member with member | member
  · exact List.mem_append_left _ (suffix.subset member)
  · exact List.mem_append_right _ member

theorem tag_letters_read :
    (∀ c ∈ lowerLetters, Text.isLetter c = true ∧ c ∈ tagLetters) ∧
      ∀ c ∈ tagLetters, (Text.isWord c || c == '-') = true ∧ Text.lowerChar c = [c] ∧
        c ≠ Text.capitalSigma :=
  ⟨Text.each_of_all (by decide +kernel), Text.each_of_all (by decide +kernel)⟩

theorem tag_name_letters (tag : TagName) : ∀ c ∈ tag.text, c ∈ tagLetters := by
  intro c member
  rcases List.mem_cons.mp member with rfl | member
  · exact (tag_letters_read.1 _ tag.starts).2
  · exact tag.inside c member

theorem lower_tag_letters {text : Text} (letters : ∀ c ∈ text, c ∈ tagLetters) (before : Text) :
    Text.lowerAfter before text = text := by
  induction text generalizing before with
  | nil => rfl
  | cons c text ih =>
      obtain ⟨_, low, sigma⟩ := tag_letters_read.2 c (letters c (by simp))
      have tail := ih (fun d member => letters d (by simp [member])) (c :: before)
      simp [Text.lowerAfter, sigma, low, tail]

theorem lower_tag (tag : TagName) : Text.lower tag.text = tag.text :=
  lower_tag_letters (tag_name_letters tag) []

theorem blank_ends_name {c : Char} (white : Text.isBlank c = true) :
    (Text.isWord c || c == '-') = false := by
  have mark := Text.ne_of_class white (d := '-') (by decide)
  cases word : Text.isWord c with
  | true => simp [Text.word_not_blank word] at white
  | false => simp [mark]

theorem tag_rest_ends_name (opening : Opening) (selfClosing : Bool) :
    Avoids (fun c => Text.isWord c || c == '-')
      (opening.attributes.flatMap WrittenAttribute.render ++
        (opening.padding ++ tagMark selfClosing) ++ rest) := by
  have blanks : ∀ gap : Text, (∀ c ∈ gap, Text.isBlank c = true) →
      Avoids (fun c => Text.isWord c || c == '-') gap :=
    fun gap white c head => blank_ends_name (white c (List.mem_of_head? head))
  cases opening.attributes with
  | nil =>
      rw [List.flatMap_nil, List.nil_append, List.append_assoc]
      refine Text.avoids_append (blanks _ opening.white) fun _ => ?_
      cases selfClosing <;> exact Text.avoids_cons (by decide) _
  | cons given others =>
      obtain ⟨nonempty, white⟩ := given.spaced
      rw [List.flatMap_cons, WrittenAttribute.render, List.append_assoc, List.append_assoc,
        List.append_assoc]
      exact Text.avoids_append (blanks _ white) fun none => absurd none nonempty

theorem reads_tag_rest (opening : Opening) (selfClosing : Bool) :
    ∃ raw, parseAttributes raw = opening.attributes.map WrittenAttribute.toAttribute ∧
      ∀ before rest, Reads (tagRest opening.tag.text) before
        (opening.attributes.flatMap WrittenAttribute.render ++
          (opening.padding ++ tagMark selfClosing)) rest
        ⟨Text.lower opening.tag.text, raw, selfClosing⟩ := by
  have distinct := opening.distinct
  cases written : opening.attributes with
  | nil =>
      exact ⟨opening.padding, parse_blanks opening.white, fun before rest =>
        reads_tag_bare opening.tag.text opening.white selfClosing⟩
  | cons given others =>
      rw [written] at distinct
      exact ⟨_, parse_attributes distinct, fun before rest =>
        reads_tag_attributes opening.tag.text given others opening.white selfClosing⟩

theorem reads_tag_name (tag : TagName) {rest : Text}
    (ends : Avoids (fun c => Text.isWord c || c == '-') rest) :
    Reads (matched do
      let _ ← char Text.isLetter
      many fun c => Text.isWord c || c == '-') before tag.text rest tag.text := by
  have others := @reads_many _ (some tag.first) tag.others rest
    (fun c member => (tag_letters_read.2 c (tag.inside c member)).1) ends
  exact reads_matched (reads_bind (reads_char (tag_letters_read.1 _ tag.starts).1) others)

/-- An open tag gives back its name, its attributes and whether it closes itself. -/
theorem reads_open_tag (opening : Opening) (selfClosing : Bool) :
    ∃ raw, parseAttributes raw = opening.attributes.map WrittenAttribute.toAttribute ∧
      ∀ before rest, Reads openTag before (opening.render selfClosing) rest
        ⟨opening.tag.text, raw, selfClosing⟩ := by
  obtain ⟨raw, parsed, reads⟩ := reads_tag_rest opening selfClosing
  rw [lower_tag] at reads
  refine ⟨raw, parsed, fun before rest => ?_⟩
  exact reads_bind (reads_single '<')
    (reads_bind (reads_tag_name opening.tag (tag_rest_ends_name opening selfClosing)) (reads _ rest))

end OpenTags

section EndTags

variable {before : Option Char} {rest : Text}

def spells : Text → Text → Bool
  | [], [] => true
  | expected :: others, c :: rest => Text.sameLetter expected c && spells others rest
  | _, _ => false

/-- An end tag of the given name in any letter case, with white space before its `>` or none. -/
def EndTag (tag text : Text) : Prop :=
  ∃ name gap, text = '<' :: '/' :: (name ++ (gap ++ ['>'])) ∧ spells tag name = true ∧
    ∀ c ∈ gap, Text.isBlank c = true

def Lacks (form : Text → Prop) (text : Text) : Prop :=
  ∀ left inner right, text = left ++ (inner ++ right) → ¬ form inner

theorem lacks_tail {form : Text → Prop} {c : Char} {text : Text} (lacks : Lacks form (c :: text)) :
    Lacks form text :=
  fun left inner right split => lacks (c :: left) inner right (by simp [split])

def endTagOf (tag : Text) : Text := '<' :: '/' :: (tag ++ ['>'])

theorem same_letter_self (c : Char) : Text.sameLetter c c = true := by
  unfold Text.sameLetter
  split <;> simp

theorem covers_same_letters (tag : Text) :
    Covers (endTag.sameLetters tag) fun passed _ => spells tag passed = true := by
  induction tag with
  | nil =>
      refine covers_mono (covers_pure ()) ?_
      rintro _ _ ⟨rfl, _⟩
      rfl
  | cons expected tag ih =>
      refine covers_mono (covers_bind (covers_char _) fun _ => ih) ?_
      rintro _ _ ⟨_, right, c, rfl, ⟨rfl, same⟩, spelled⟩
      simp [spells, same, spelled]

theorem covers_end_tag (tag : Text) : Covers (endTag tag) fun passed _ => EndTag tag passed := by
  refine covers_mono (covers_bind (covers_chars _) fun _ => covers_bind (covers_same_letters tag)
    fun _ => covers_bind (covers_many Text.isBlank) fun _ => covers_single '>') ?_
  rintro _ _ ⟨_, _, _, rfl, rfl, name, _, _, rfl, spelled, gap, _, _, rfl, white, rfl⟩
  exact ⟨name, gap, rfl, spelled, white⟩

theorem reads_same_letters (tag : Text) :
    Reads (endTag.sameLetters tag) before tag rest () := by
  induction tag generalizing before with
  | nil => exact reads_pure ()
  | cons c tag ih => exact reads_bind (reads_char (same_letter_self c)) ih

theorem reads_end_tag (tag : Text) : Reads (endTag tag) before (endTagOf tag) rest () := by
  change Reads (endTag tag) before ("</".toList ++ (tag ++ ([] ++ ['>']))) rest ()
  refine reads_bind (reads_word "</") (reads_bind (reads_same_letters tag) ?_)
  exact reads_bind (reads_blanks (by simp) (Text.avoids_cons (by decide) _)) (reads_single '>')

theorem tag_letters_spelled : ∀ c ∈ tagLetters, Text.sameLetter c '<' = false :=
  Text.each_of_all (by decide +kernel)

theorem spelled_inside {tag name : Text} (letters : ∀ c ∈ tag, c ∈ tagLetters)
    (spelled : spells tag name = true) : '<' ∉ name := by
  induction tag generalizing name with
  | nil =>
      cases name with
      | nil => simp
      | cons c name => simp [spells] at spelled
  | cons expected tag ih =>
      cases name with
      | nil => simp
      | cons c name =>
          simp only [spells, Bool.and_eq_true] at spelled
          have first := Text.ne_of_class spelled.1 (tag_letters_spelled _ (letters _ (by simp)))
          have others := ih (fun d member => letters d (by simp [member])) spelled.2
          simp [first.symm, others]

theorem end_tag_inside {tag text : Text} (letters : ∀ c ∈ tag, c ∈ tagLetters)
    (tagged : EndTag tag text) : ∃ inner, text = '<' :: inner ∧ '<' ∉ inner := by
  obtain ⟨name, gap, rfl, spelled, white⟩ := tagged
  have blank : '<' ∉ gap := fun member => absurd (white _ member) (by decide)
  exact ⟨_, rfl, by simp [spelled_inside letters spelled, blank]⟩

-- The start of a match cannot reach into a text that begins with `<`, since a match holds this mark
-- at its very start.
theorem quiet_before_mark {α : Type} {reader : Reader α} {form : Text → Prop} {passed : Text}
    (covers : Covers reader fun read _ => ∃ start tail, read = start ++ tail ∧ form start)
    (inside : ∀ start, form start → ∃ inner, start = '<' :: inner ∧ '<' ∉ inner)
    (lacks : Lacks form passed) (rest : Text) : Quiet reader passed ('<' :: rest) := by
  refine quiet_of_covers covers fun left right read after _ split nonempty joined formed => ?_
  obtain ⟨start, tail, rfl, formed⟩ := formed
  rw [List.append_assoc] at joined
  rcases List.append_eq_append_iff.mp joined with ⟨more, shape, behind⟩ | ⟨more, shape, _⟩
  · obtain ⟨c, others, rfl⟩ := List.exists_cons_of_ne_nil nonempty
    obtain ⟨inner, starts, absent⟩ := inside start formed
    cases more with
    | nil =>
        rw [List.append_nil] at shape
        exact lacks left (c :: others) [] (by simpa using split) (shape ▸ formed)
    | cons d more =>
        obtain rfl : '<' = d := by simpa using congrArg List.head? behind
        rw [shape, List.cons_append] at starts
        have same : others ++ '<' :: more = inner := (List.cons.inj starts).2
        exact absent (same ▸ by simp)
  · exact lacks left start more (by rw [split, shape]) formed

theorem search_end_tag (tag : TagName) {content : Text} (lacks : Lacks (EndTag tag.text) content)
    (rest : Text) :
    search (endTag tag.text) (content ++ (endTagOf tag.text ++ rest)) =
      some ⟨(), content.length, content.length + (endTagOf tag.text).length⟩ :=
  search_first (quiet_before_mark (covers_mono (covers_end_tag tag.text)
    fun read _ tagged => ⟨read, [], (List.append_nil read).symm, tagged⟩)
    (fun _ => end_tag_inside (tag_name_letters tag)) lacks _) (reads_end_tag tag.text)

end EndTags

end PatternInspector.Component
