import PatternInspector.Proofs.Component.Cut
import PatternInspector.Proofs.Component.Gathering
import PatternInspector.Proofs.Component.Rendering

/-!
Tag names in another letter case. The names of opening and end tags are read in any case, with one
exception: the end of a template is looked for in lower case only. So the case of a tag name matters
exactly there.
-/
namespace PatternInspector.Component

open PatternInspector.Text (Reader Cursor Recased Alike Caseless)
open PatternInspector.Text.Reader

section Names

def nameLength (text : Text) : Nat := ((text.drop 1).takeWhile isTagPart).length

def Piece.InOpening (text : Text) (index : Nat) : Piece → Prop
  | block .. => 1 ≤ index ∧ index ≤ nameLength text
  | _ => False

def Piece.InEnding (index : Nat) : Piece → Prop
  | block tag _ inset content length => inset + content.length < length ∧
      inset + content.length + 2 ≤ index ∧ index < inset + content.length + 2 + tag.length
  | _ => False

def Piece.isTemplate : Piece → Bool
  | block tag .. => tag == templateName
  | _ => false

instance (text : Text) (index : Nat) : (piece : Piece) → Decidable (piece.InOpening text index)
  | .plain => inferInstanceAs (Decidable False)
  | .comment _ => inferInstanceAs (Decidable False)
  | .block .. => inferInstanceAs (Decidable (1 ≤ index ∧ index ≤ nameLength text))

instance (index : Nat) : (piece : Piece) → Decidable (piece.InEnding index)
  | .plain => inferInstanceAs (Decidable False)
  | .comment _ => inferInstanceAs (Decidable False)
  | .block .. => inferInstanceAs (Decidable (_ ∧ _))

def TagNameAt (text : Text) (piece : Piece) (index : Nat) : Prop :=
  piece.InOpening text index ∨ piece.InEnding index

def TemplateEndAt (_ : Text) (piece : Piece) (index : Nat) : Prop :=
  piece.isTemplate = true ∧ piece.InEnding index

instance (text : Text) (piece : Piece) (index : Nat) : Decidable (TagNameAt text piece index) :=
  inferInstanceAs (Decidable (_ ∨ _))

instance (text : Text) (piece : Piece) (index : Nat) : Decidable (TemplateEndAt text piece index) :=
  inferInstanceAs (Decidable (_ ∧ _))

/-- Position `index` of a text lies at such a place in one of the pieces that a split comes to. -/
inductive InPiece (place : Text → Piece → Nat → Prop) : Text → Nat → Prop
  | text {c : Char} {rest : Text} {index : Nat} (other : c ≠ '<') (inner : InPiece place rest index) :
      InPiece place (c :: rest) (index + 1)
  | here {rest : Text} {piece : Piece} {index : Nat} (read : pieceOf ('<' :: rest) = .ok piece)
      (within : place ('<' :: rest) piece index) : InPiece place ('<' :: rest) index
  | later {rest : Text} {piece : Piece} {index : Nat} (read : pieceOf ('<' :: rest) = .ok piece)
      (inner : InPiece place (('<' :: rest).drop piece.size) index) :
      InPiece place ('<' :: rest) (piece.size + index)

/-- The texts differ at most in the letter case of the tag names of blocks. -/
structure Renamed (text text' : Text) : Prop where
  recased : Recased text text'
  apart : ∀ index, text[index]? ≠ text'[index]? → InPiece TagNameAt text index

/-- The second text has the end tags of the templates of the first as they are. -/
def TemplateEndsKept (text text' : Text) : Prop :=
  ∀ index, InPiece TemplateEndAt text index → text[index]? = text'[index]?

end Names

section Tags

variable {text text' : Text}

theorem caseless_tag_part : Caseless isTagPart := Text.caseless_of_letters (Text.each_of_all (by decide +kernel))

theorem caseless_mark : Caseless (· == '<') := Text.caseless_of_letters (Text.each_of_all (by decide))

theorem tag_steps_alike : TagSteps Alike where
  opening := Text.steps_alike caseless_mark
  letter := Text.steps_alike (Text.caseless_of_letters (Text.each_of_all (by decide)))
  part := Text.steps_alike caseless_tag_part
  blank := Text.steps_alike Text.caseless_blank
  inside := Text.steps_alike (Text.caseless_of_letters (Text.each_of_all (by decide)))
  slash := Text.steps_alike (Text.caseless_of_letters (Text.each_of_all (by decide)))

theorem caseless_angle : Caseless (· == '>') := Text.caseless_of_letters (Text.each_of_all (by decide))

theorem open_tag_alike : Parallel Alike Alike (fun found found' => found.tag = found'.tag ∧
    Recased found.attributes found'.attributes ∧ found.selfClosing = found'.selfClosing)
    openTag openTag :=
  parallel_open_tag tag_steps_alike (Text.steps_alike caseless_angle)
    (fun _ _ _ _ => Text.alike_passed)
    fun _ _ _ _ _ named written => ⟨Text.lower_recased named, written, rfl⟩

theorem end_tag_alike (tag : Text) : Parallel Alike Alike Eq (endTag tag) (endTag tag) :=
  parallel_end_tag tag_steps_alike
    (fun c _ => Text.steps_alike (Text.caseless_same_letter c)) (Text.steps_alike caseless_angle)

theorem name_length_recased (recased : Recased text text') : nameLength text = nameLength text' := by
  unfold nameLength
  have inner : Recased (text.drop 1) (text'.drop 1) := List.forall₂_drop 1 recased
  generalize text.drop 1 = rest at inner ⊢
  generalize text'.drop 1 = rest' at inner ⊢
  induction inner with
  | nil => rfl
  | cons same _ ih =>
      rw [List.takeWhile_cons, List.takeWhile_cons, caseless_tag_part _ _ same]
      split
      next => exact congrArg (· + 1) ih
      next => rfl

theorem name_length_form {passed rest name tail : Text} {found : OpenTag}
    (form : OpenForm passed found name tail) : nameLength (passed ++ rest) = name.length := by
  obtain ⟨c, others, ended, refused⟩ := form.ended
  rw [nameLength, form.text, ended, List.cons_append, List.drop_one, List.tail_cons,
    List.append_assoc, List.takeWhile_append_of_pos form.named, List.cons_append,
    List.takeWhile_cons, refused]
  simp

theorem form_attributes {passed rest name tail : Text} {found : OpenTag}
    (form : OpenForm passed found name tail) :
    ((passed ++ rest).drop (name.length + 1)).take found.attributes.length = found.attributes ∧
      name.length + 1 < passed.length ∧
      name.length + 1 + found.attributes.length ≤ passed.length := by
  obtain ⟨c, others, ended, -⟩ := form.ended
  have size := congrArg List.length ended
  have whole := congrArg List.length form.text
  simp only [List.length_append, List.length_cons] at size whole
  refine ⟨?_, by omega, by omega⟩
  rw [form.text, List.cons_append, List.drop_succ_cons, List.append_assoc, List.drop_left,
    List.append_assoc, List.take_left]

-- Two texts that agree from one position to another have the same part there.
theorem slice_agree {start count : Nat} (agree : ∀ index, start ≤ index → index < start + count →
    text[index]? = text'[index]?) : (text.drop start).take count = (text'.drop start).take count := by
  refine List.ext_getElem? fun index => ?_
  rw [List.getElem?_take, List.getElem?_take]
  split
  next inside =>
    rw [List.getElem?_drop, List.getElem?_drop]
    exact agree (start + index) (by omega) (by omega)
  next => rfl

theorem open_tag_recased (recased : Recased text text') {found : OpenTag} {after : Cursor}
    (tagged : openTag.first? (Cursor.start text) = some (found, after))
    (agree : ∀ index, nameLength text < index → index < after.position →
      text[index]? = text'[index]?) :
    ∃ after', openTag.first? (Cursor.start text') = some (found, after') ∧
      after'.position = after.position := by
  have alike : Alike (Cursor.start text) (Cursor.start text') := ⟨rfl, recased⟩
  rcases parallel_first open_tag_alike alike with
    ⟨none, -⟩ | ⟨way, ⟨found', after'⟩, first, tagged', ⟨tag, written, slash⟩, place, -⟩
  · rw [tagged] at none
    cases none
  obtain rfl := Option.some.inj (tagged.symm.trans first)
  obtain ⟨passed, ⟨name, tail, form⟩, split, behind⟩ :=
    covers_open_tag _ _ (List.mem_of_head? tagged)
  obtain ⟨passed', ⟨name', tail', form'⟩, split', -⟩ :=
    covers_open_tag _ _ (List.mem_of_head? tagged')
  have whole : text = passed ++ after.rest := split
  have whole' : text' = passed' ++ after'.rest := split'
  have named : nameLength text = name.length := whole ▸ name_length_form form
  have named' : nameLength text' = name'.length := whole' ▸ name_length_form form'
  have reach : after.position = 0 + passed.length := congrArg Cursor.position behind
  obtain ⟨raw, -, inside⟩ := @form_attributes passed after.rest name tail found form
  obtain ⟨raw', -, -⟩ := @form_attributes passed' after'.rest name' tail' found' form'
  -- Both tags have their raw attributes at the same place, where the texts agree.
  have same : found.attributes = found'.attributes := by
    rw [← raw, ← raw', ← whole, ← whole', ← named, ← named', ← name_length_recased recased,
      ← written.length_eq]
    exact slice_agree fun index least most => agree index (by omega) (by omega)
  have equal : found = found' := by
    obtain ⟨_, _, _⟩ := found
    obtain ⟨_, _, _⟩ := found'
    exact OpenTag.mk.injEq .. ▸ ⟨tag, same, slash⟩
  exact ⟨after', equal ▸ tagged', place.symm⟩

theorem open_tag_place {found : OpenTag} {after : Cursor}
    (tagged : openTag.first? (Cursor.start text) = some (found, after)) :
    nameLength text + 1 < after.position ∧
      after.position + after.rest.length = text.length := by
  obtain ⟨passed, ⟨name, tail, form⟩, split, behind⟩ :=
    covers_open_tag _ _ (List.mem_of_head? tagged)
  have whole : text = passed ++ after.rest := split
  have reach : after.position = 0 + passed.length := congrArg Cursor.position behind
  have named : nameLength text = name.length := whole ▸ name_length_form form
  have size := congrArg List.length whole
  obtain ⟨-, longer, -⟩ := @form_attributes passed after.rest name tail found form
  rw [List.length_append] at size
  omega

end Tags

section Pieces

variable {text text' : Text}

theorem comment_marks_caseless : ∀ c ∈ commentStart ++ commentEnd, Caseless (· == c) := by
  have marks : ∀ c ∈ commentStart ++ commentEnd,
      Text.upperLetters.all (fun d => decide ((d.toLower == c) = (d == c))) = true :=
    Text.each_of_all (by decide)
  exact fun c member => Text.caseless_of_letters (Text.each_of_all (marks c member))

theorem spells_length {tag name : Text} (spelled : spells tag name = true) :
    name.length = tag.length := by
  induction tag generalizing name with
  | nil =>
      cases name with
      | nil => rfl
      | cons c name => cases spelled
  | cons expected tag ih =>
      cases name with
      | nil => cases spelled
      | cons c name => exact congrArg (· + 1) (ih (Bool.and_eq_true_iff.mp spelled).2)

theorem covers_template_closing :
    Covers templateTag fun passed value => value = .closing → ∃ gap, passed = nestedClosing gap := by
  have opening := covers_bind (covers_chars "<template".toList) fun _ =>
    covers_bind (covers_provided fun cursor =>
      cursor.rest.head?.any fun c => Text.isBlank c || c == '>' || c == '/') fun _ =>
    covers_bind (covers_few (· != '>')) fun _ => covers_bind covers_slash fun slash =>
    covers_bind (covers_single '>') fun _ =>
    covers_pure (if slash.isSome then TemplateTag.selfClosed else .opening)
  have closing := covers_bind (covers_chars "</template".toList) fun _ =>
    covers_bind (covers_many Text.isBlank) fun _ =>
    covers_bind (covers_single '>') fun _ => covers_pure TemplateTag.closing
  refine covers_mono (covers_or opening closing) ?_
  rintro _ value (⟨_, _, _, -, -, _, _, _, -, -, _, _, _, -, -, _, _, slash, -, -, _, _, _, -, -, -,
    given⟩ | ⟨_, _, _, rfl, rfl, gap, _, _, rfl, -, _, _, _, rfl, rfl, rfl, -⟩) closes
  · rw [given] at closes
    split at closes <;> cases closes
  · exact ⟨gap, rfl⟩

/-- What stands where the content of an element ends: an end tag with a name of the same length, which
for a template is the name itself. -/
theorem content_end_form {tag rest : Text} {inside stop : Nat}
    (ended : contentEnd? tag rest = some (inside, stop)) :
    ∃ name gap, '<' :: '/' :: (name ++ (gap ++ ['>'])) <+: rest.drop inside ∧
      inside + name.length + gap.length + 3 = stop ∧ name.length = tag.length ∧
      (tag = templateName → name = templateName) := by
  have placed : ∀ {left name gap right : Text} {start stop : Nat}, start = 0 + left.length →
      stop = start + ('<' :: '/' :: (name ++ (gap ++ ['>']))).length →
      '<' :: '/' :: (name ++ (gap ++ ['>'])) <+:
        (left ++ ('<' :: '/' :: (name ++ (gap ++ ['>'])) ++ right)).drop start ∧
      start + name.length + gap.length + 3 = stop := by
    intro left name gap right start stop first last
    rw [first, Nat.zero_add, List.drop_left]
    refine ⟨List.prefix_append _ _, ?_⟩
    simp only [List.length_cons, List.length_append, List.length_nil] at last
    omega
  unfold contentEnd? at ended
  split at ended
  next template =>
    obtain ⟨earlier, found, later, all, closing, rfl, rfl, -⟩ := balanced_split ended
    obtain ⟨left, read, right, rfl, formed, start, stop⟩ :=
      find_all_found covers_template_closing (show found ∈ findAll templateTag rest by simp [all])
    obtain ⟨gap, rfl⟩ := formed closing
    have named : tag = templateName := beq_iff_eq.mp template
    obtain ⟨stands, size⟩ := placed start stop
    exact ⟨templateName, gap, stands, size, by rw [named], fun _ => rfl⟩
  next other =>
    obtain ⟨found, searched, same⟩ := Option.map_eq_some_iff.mp ended
    obtain ⟨rfl, rfl⟩ := Prod.mk.inj same
    obtain ⟨left, _, right, rfl, ⟨name, gap, rfl, spelled, -⟩, start, stop⟩ :=
      search_found (covers_end_tag tag) searched
    obtain ⟨stands, size⟩ := placed start stop
    exact ⟨name, gap, stands, size, spells_length spelled,
      fun template => absurd (beq_iff_eq.mpr template) other⟩

/-- Where a template ends, its end tag stands in lower case. -/
theorem template_end_stands {rest : Text} {inside stop : Nat}
    (ended : contentEnd? templateName rest = some (inside, stop)) :
    '<' :: '/' :: templateName <+: rest.drop inside := by
  obtain ⟨name, gap, stands, -, -, named⟩ := content_end_form ended
  rw [named rfl] at stands
  exact (List.prefix_append ('<' :: '/' :: templateName) _).trans stands

-- The places where the texts may differ lie in the names, and a template's end tag is kept.
theorem content_end_recased (recased : Recased text text') {tag : Text} {start inside stop : Nat}
    (angle : '>' ∉ tag) (ended : contentEnd? tag (text.drop start) = some (inside, stop))
    (agree : tag = templateName → ∀ index, start ≤ index → index < start + stop →
      text[index]? = text'[index]?) :
    contentEnd? tag (text'.drop start) = some (inside, stop) := by
  by_cases template : tag = templateName
  · have same := slice_agree (agree template)
    rw [← List.take_append_drop stop (text'.drop start), ← same]
    exact content_end_kept angle ended _
  · have other : ¬ (tag == "template".toList) = true := fun same => template (beq_iff_eq.mp same)
    rw [contentEnd?, if_neg other] at ended ⊢
    rw [← ended, Text.search_alike (end_tag_alike tag) (List.forall₂_drop start recased)]

section Blocks

variable {tag content : Text} {attributes : List Attribute} {inset length : Nat}

-- Outside the names a block stands as it did.
theorem agree_apart (apart : ∀ index < length, text[index]? ≠ text'[index]? →
      TagNameAt text (.block tag attributes inset content length) index)
    {index : Nat} (behind : nameLength text < index) (inside : index < length)
    (other : ¬ (Piece.block tag attributes inset content length).InEnding index) :
    text[index]? = text'[index]? := by
  by_contra differ
  rcases apart index inside differ with opening | ending
  · exact absurd opening.2 (by omega)
  · exact other ending

theorem ending_behind {index : Nat} (early : index < inset + content.length) :
    ¬ (Piece.block tag attributes inset content length).InEnding index := by
  rintro ⟨-, late, -⟩
  omega

theorem opening_apart (recased : Recased text text') {found : OpenTag} {after : Cursor}
    (tagged : openTag.first? (Cursor.start text) = some (found, after))
    (apart : ∀ index < length, text[index]? ≠ text'[index]? →
      TagNameAt text (.block tag attributes after.position content length) index)
    (longer : after.position ≤ length) :
    ∃ after', openTag.first? (Cursor.start text') = some (found, after') ∧
      after'.position = after.position :=
  open_tag_recased recased tagged fun _ behind inside =>
    agree_apart apart behind (by omega) (ending_behind (by omega))

end Blocks

theorem piece_recased (recased : Recased text text') {piece : Piece}
    (read : pieceOf text = .ok piece)
    (apart : ∀ index < piece.size, text[index]? ≠ text'[index]? → TagNameAt text piece index)
    (kept : ∀ index, TemplateEndAt text piece index → text[index]? = text'[index]?) :
    pieceOf text' = .ok piece := by
  have outcome := piece_of_outcome text
  rw [read] at outcome
  refine outcome_piece_of ?_
  have starts' := @Text.is_prefix_recased text text' commentStart
    (fun c member => comment_marks_caseless c (by simp [member])) recased
  cases outcome with
  | comment starts closed =>
      rw [starts'] at starts
      rw [Text.find_recased (fun c member => comment_marks_caseless c (by simp [member]))
        (List.forall₂_drop _ recased)] at closed
      exact .comment starts closed
  | plain starts untagged =>
      rw [starts'] at starts
      have alike : Alike (Cursor.start text) (Cursor.start text') := ⟨rfl, recased⟩
      rcases parallel_first open_tag_alike alike with ⟨-, none⟩ | ⟨way, -, first, -⟩
      · exact .plain starts none
      · rw [untagged] at first
        cases first
  | @selfClosed found after starts tagged closing =>
      rw [starts'] at starts
      obtain ⟨after', tagged', place⟩ := opening_apart recased tagged apart (Nat.le_refl _)
      rw [← place]
      exact .selfClosed starts tagged' closing
  | @element found after inside stop starts tagged opening ended =>
      rw [starts'] at starts
      have reach := Nat.le_trans (content_end_le ended) (content_end_stop ended)
      have size : (after.rest.take inside).length = inside := List.length_take_of_le reach
      have named := (open_tag_place tagged).1
      obtain ⟨after', tagged', place⟩ := opening_apart recased tagged apart (Nat.le_add_right _ _)
      obtain ⟨_, ⟨name, tail, form⟩, -⟩ := covers_open_tag _ _ (List.mem_of_head? tagged)
      have order := content_end_le ended
      have content : after.rest.take inside = after'.rest.take inside := by
        rw [← first_rest tagged, ← first_rest tagged', place]
        exact slice_agree fun index least most =>
          agree_apart apart (by omega) (show index < after.position + stop by omega)
            (ending_behind (size.symm ▸ most))
      have ended' : contentEnd? found.tag after'.rest = some (inside, stop) := by
        rw [← first_rest tagged] at ended
        rw [← first_rest tagged', place]
        refine content_end_recased recased (open_form_angle form) ended
          fun template index least most => ?_
        by_cases within : (Piece.block found.tag (parseAttributes found.attributes) after.position
            (after.rest.take inside) (after.position + stop)).InEnding index
        · exact kept index ⟨beq_iff_eq.mpr template, within⟩
        · exact agree_apart apart (by omega) most within
      rw [content, ← place]
      exact .element starts tagged' opening ended'

theorem prefix_character {needle : Text} {start index : Nat} (stands : needle <+: text.drop start)
    (least : start ≤ index) (most : index < start + needle.length) :
    text[index]? = needle[index - start]? := by
  obtain ⟨tail, split⟩ := stands
  have shift : text[index]? = (text.drop start)[index - start]? := by
    rw [List.getElem?_drop, Nat.add_sub_cancel' least]
  rw [shift, ← split, List.getElem?_append_left (by omega)]

/-- A template whose end tag is written otherwise is not closed there. -/
theorem template_end_missed (recased : Recased text text') {piece : Piece}
    (read : pieceOf text = .ok piece)
    (apart : ∀ index < piece.size, text[index]? ≠ text'[index]? → TagNameAt text piece index)
    {index : Nat} (within : TemplateEndAt text piece index)
    (differ : text[index]? ≠ text'[index]?) :
    (∃ cause, pieceOf text' = .error cause) ∨
      ∃ attributes inset content length content' length',
        piece = .block templateName attributes inset content length ∧
        pieceOf text' = .ok (.block templateName attributes inset content' length') ∧
        content ≠ content' := by
  have outcome := piece_of_outcome text
  rw [read] at outcome
  obtain ⟨template, ending⟩ := within
  cases outcome with
  | comment starts closed => cases template
  | plain starts untagged => cases template
  | @selfClosed found after starts tagged closing =>
      have longer : after.position + 0 < after.position := ending.1
      omega
  | @element found after inside stop starts tagged opening ended =>
      have named : found.tag = templateName := beq_iff_eq.mp template
      rw [@Text.is_prefix_recased text text' commentStart
        (fun c member => comment_marks_caseless c (by simp [member])) recased] at starts
      obtain ⟨after', tagged', place⟩ := opening_apart recased tagged apart (Nat.le_add_right _ _)
      cases ended' : contentEnd? found.tag after'.rest with
      | none => exact Or.inl ⟨_, outcome_piece_of (.endless starts tagged' opening ended')⟩
      | some result =>
          obtain ⟨inside', stop'⟩ := result
          refine Or.inr ⟨_, _, _, _, after'.rest.take inside', after'.position + stop',
            by rw [named], ?_, fun same => differ ?_⟩
          · rw [← named, ← place]
            exact outcome_piece_of (.element starts tagged' opening ended')
          -- With the same content both end tags stand at the same place, letter by letter alike.
          have size := List.length_take_of_le
            (Nat.le_trans (content_end_le ended) (content_end_stop ended))
          have size' := List.length_take_of_le
            (Nat.le_trans (content_end_le ended') (content_end_stop ended'))
          obtain rfl : inside = inside' := size.symm.trans ((congrArg List.length same).trans size')
          obtain ⟨-, late, early⟩ := ending
          rw [size, named] at early
          rw [size] at late
          rw [named, ← first_rest tagged] at ended
          rw [named, ← first_rest tagged', place] at ended'
          have stands := template_end_stands ended
          have stands' := template_end_stands ended'
          rw [List.drop_drop] at stands stands'
          have length : ('<' :: '/' :: templateName).length = templateName.length + 2 := rfl
          rw [prefix_character stands (by omega) (by omega),
            prefix_character stands' (by omega) (by omega)]

end Pieces

section Runs

variable {code code' : Text} {descriptor filled : Descriptor} {position : Nat}

theorem piece_size_bounds {rest : Text} {piece : Piece} (read : pieceOf ('<' :: rest) = .ok piece) :
    1 ≤ piece.size ∧ piece.size ≤ ('<' :: rest).length := by
  have outcome := piece_of_outcome ('<' :: rest)
  rw [read] at outcome
  cases outcome with
  | @comment inside starts closed =>
      have ends := (Text.find_sound closed).length_le
      have begins := (List.isPrefixOf_iff_prefix.mp starts).length_le
      simp only [List.length_drop] at ends
      have marks : commentStart.length = 4 ∧ commentEnd.length = 3 := by decide
      simp only [Piece.size]
      omega
  | plain => simp [Piece.size]
  | selfClosed starts tagged closing =>
      have place := open_tag_place tagged
      simp only [Piece.size]
      omega
  | element starts tagged opening ended =>
      have place := open_tag_place tagged
      have reach := content_end_stop ended
      simp only [Piece.size]
      omega

theorem split_from_jump {rest : Text} {piece : Piece} {extended : Descriptor}
    (read : pieceOf ('<' :: rest) = .ok piece)
    (taken : piece.taken code position descriptor = .ok extended) :
    splitFrom code descriptor position 0 ('<' :: rest) =
      splitFrom code extended (position + piece.size) 0 (('<' :: rest).drop piece.size) := by
  obtain ⟨least, most⟩ := piece_size_bounds read
  obtain ⟨left, size⟩ : ∃ left, piece.size = left + 1 := ⟨piece.size - 1, by omega⟩
  have inside : (rest.take left).length = left := by
    rw [List.length_take_of_le]
    rw [size, List.length_cons] at most
    omega
  have skipped : splitFrom code extended (position + 1) (rest.take left).length
      (rest.take left ++ rest.drop left) = _ := split_skip (rest.take left)
  rw [inside, List.take_append_drop] at skipped
  rw [split_from_piece read, taken, size, List.drop_succ_cons, Nat.add_sub_cancel]
  exact skipped.trans (by rw [Nat.add_assoc, Nat.add_comm 1])

variable {place : Text → Piece → Nat → Prop}

theorem in_piece_text {c : Char} {rest : Text} {index : Nat} (other : c ≠ '<') :
    InPiece place (c :: rest) index ↔ ∃ inner, index = inner + 1 ∧ InPiece place rest inner := by
  constructor
  · intro among
    cases among with
    | text _ inner => exact ⟨_, rfl, inner⟩
    | here => exact absurd rfl other
    | later => exact absurd rfl other
  · rintro ⟨inner, rfl, among⟩
    exact .text other among

theorem in_piece_own {rest : Text} {piece : Piece} {index : Nat}
    (read : pieceOf ('<' :: rest) = .ok piece) :
    InPiece place ('<' :: rest) index ↔ place ('<' :: rest) piece index ∨
      ∃ inner, index = piece.size + inner ∧ InPiece place (('<' :: rest).drop piece.size) inner := by
  constructor
  · intro among
    cases among with
    | text other => exact absurd rfl other
    | here read' within =>
        obtain rfl := Except.ok.inj (read.symm.trans read')
        exact Or.inl within
    | later read' inner =>
        obtain rfl := Except.ok.inj (read.symm.trans read')
        exact Or.inr ⟨_, rfl, inner⟩
  · rintro (within | ⟨inner, rfl, among⟩)
    · exact .here read within
    · exact .later read among

theorem names_inside {text : Text} {piece : Piece} (read : pieceOf text = .ok piece) {index : Nat}
    (within : TagNameAt text piece index) : index < piece.size := by
  have outcome := piece_of_outcome text
  rw [read] at outcome
  cases outcome with
  | comment | plain => rcases within with opening | ending <;> contradiction
  | @selfClosed found after starts tagged closing =>
      have place := (open_tag_place tagged).1
      rcases within with opening | ending
      · exact Nat.lt_of_le_of_lt opening.2 (by simp only [Piece.size]; omega)
      · exact absurd ending.1 (by simp)
  | @element found after inside stop starts tagged opening ended =>
      have place := (open_tag_place tagged).1
      obtain ⟨name, gap, -, size, length, -⟩ := content_end_form ended
      rcases within with opening | ending
      · exact Nat.lt_of_le_of_lt opening.2 (by simp only [Piece.size]; omega)
      · have short := List.length_take_le inside after.rest
        exact Nat.lt_of_lt_of_le ending.2.2 (by simp only [Piece.size]; omega)

section Changes

variable {c c' : Char} {rest rest' : Text} {piece : Piece}

theorem renamed_of_places {text text' : Text} (recased : Recased text text')
    (places : ∀ index < text.length, text[index]? ≠ text'[index]? → InPiece TagNameAt text index) :
    Renamed text text' := by
  refine ⟨recased, fun index differ => places index ?_ differ⟩
  by_contra outside
  have outside' : text'.length ≤ index := recased.length_eq ▸ Nat.le_of_not_lt outside
  rw [List.getElem?_eq_none (Nat.le_of_not_lt outside), List.getElem?_eq_none outside'] at differ
  exact differ rfl

theorem renamed_tail (other : c ≠ '<') (renamed : Renamed (c :: rest) (c' :: rest')) :
    Renamed rest rest' := by
  refine ⟨(List.forall₂_cons.mp renamed.recased).2, fun index differ => ?_⟩
  obtain ⟨inner, shift, among⟩ := (in_piece_text other).mp (renamed.apart (index + 1) differ)
  obtain rfl := Nat.succ.inj shift
  exact among

theorem renamed_near (renamed : Renamed ('<' :: rest) ('<' :: rest'))
    (read : pieceOf ('<' :: rest) = .ok piece) :
    ∀ index < piece.size, ('<' :: rest)[index]? ≠ ('<' :: rest')[index]? →
      TagNameAt ('<' :: rest) piece index := by
  intro index inside differ
  rcases (in_piece_own read).mp (renamed.apart index differ) with within | ⟨inner, rfl, -⟩
  · exact within
  · omega

theorem renamed_drop (renamed : Renamed ('<' :: rest) ('<' :: rest'))
    (read : pieceOf ('<' :: rest) = .ok piece) :
    Renamed (('<' :: rest).drop piece.size) (('<' :: rest').drop piece.size) := by
  refine ⟨List.forall₂_drop _ renamed.recased, fun index differ => ?_⟩
  rw [List.getElem?_drop, List.getElem?_drop] at differ
  rcases (in_piece_own read).mp (renamed.apart _ differ) with within | ⟨inner, shift, among⟩
  · exact absurd (names_inside read within) (by omega)
  · obtain rfl := Nat.add_left_cancel shift
    exact among

theorem kept_tail (other : c ≠ '<') :
    TemplateEndsKept (c :: rest) (c' :: rest') ↔ TemplateEndsKept rest rest' := by
  constructor
  · exact fun kept index among => kept (index + 1) (.text other among)
  · intro kept index among
    obtain ⟨inner, rfl, behind⟩ := (in_piece_text other).mp among
    exact kept inner behind

theorem kept_piece (read : pieceOf ('<' :: rest) = .ok piece) :
    TemplateEndsKept ('<' :: rest) ('<' :: rest') ↔
      (∀ index, TemplateEndAt ('<' :: rest) piece index →
        ('<' :: rest)[index]? = ('<' :: rest')[index]?) ∧
      TemplateEndsKept (('<' :: rest).drop piece.size) (('<' :: rest').drop piece.size) := by
  simp only [TemplateEndsKept, List.getElem?_drop]
  constructor
  · exact fun kept => ⟨fun index within => kept index (.here read within),
      fun index among => kept _ (.later read among)⟩
  · rintro ⟨near, far⟩ index among
    rcases (in_piece_own read).mp among with within | ⟨inner, rfl, behind⟩
    · exact near index within
    · exact far inner behind

end Changes

theorem taken_recased (recased : Recased code code') (piece : Piece) :
    piece.taken code position descriptor = piece.taken code' position descriptor := by
  cases piece with
  | plain => rfl
  | comment length => rfl
  | block tag attributes inset content length =>
      rw [Piece.taken, Piece.taken, Text.newlines_recased (List.forall₂_take _ recased)]

/-- The template that is read at some place is the one on the shelf in the end. -/
theorem template_held {rest content : Text} {attributes : List Attribute} {inset length : Nat}
    (here : code.drop position = '<' :: rest)
    (read : pieceOf ('<' :: rest) = .ok (.block templateName attributes inset content length))
    (result : splitFrom code descriptor position 0 ('<' :: rest) = .ok filled) :
    ∃ block later, block.content = content ∧
      filled.held .template = descriptor.held .template ++ block :: later := by
  have next : code.drop (position + 1) = rest := by
    rw [← List.drop_drop, here, List.drop_one, List.tail_cons]
  rw [split_from_piece read] at result
  split at result
  next => cases result
  next extended taken =>
    obtain ⟨placed, -, held⟩ := split_from_spans next result
    rw [Piece.taken] at taken
    generalize made : (⟨String.ofList templateName, content, attributes,
      Text.newlines (code.take (position + inset))⟩ : Block) = block at taken
    have kind : block.kind = "template" := made ▸ (by decide : String.ofList templateName = "template")
    have shelf : block.shelf = .template := if_pos kind
    refine ⟨block, onShelf .template (placed.map Prod.fst), made ▸ rfl, ?_⟩
    rw [held, (assign_held taken).2, on_shelf_single, if_pos shelf, List.append_assoc]
    rfl

-- The shelf shows which content the template was given.
theorem template_refused {rest rest' : Text} (renamed : Renamed ('<' :: rest) ('<' :: rest'))
    (here : code.drop position = '<' :: rest) (here' : code'.drop position = '<' :: rest')
    {piece : Piece} (read : pieceOf ('<' :: rest) = .ok piece) {index : Nat}
    (within : TemplateEndAt ('<' :: rest) piece index)
    (differ : ('<' :: rest)[index]? ≠ ('<' :: rest')[index]?)
    (result : splitFrom code descriptor position 0 ('<' :: rest) = .ok filled) :
    splitFrom code' descriptor position 0 ('<' :: rest') ≠ .ok filled := by
  intro result'
  rcases template_end_missed renamed.recased read (renamed_near renamed read) within differ with
    ⟨cause, failed⟩ | ⟨attributes, inset, content, length, content', length', rfl, read', other⟩
  · rw [split_from_error failed] at result'
    cases result'
  · obtain ⟨block, later, written, held⟩ := template_held here read result
    obtain ⟨block', later', written', held'⟩ := template_held here' read' result'
    rw [held] at held'
    obtain ⟨rfl, -⟩ := List.cons.inj (List.append_cancel_left held')
    exact other (written.symm.trans written')

/-- The run over the renamed text takes the same steps, as long as every template ends where it did. -/
theorem split_from_renamed (recased : Recased code code') {text text' : Text}
    (here : code.drop position = text) (here' : code'.drop position = text')
    (renamed : Renamed text text')
    (result : splitFrom code descriptor position 0 text = .ok filled) :
    splitFrom code' descriptor position 0 text' = .ok filled ↔ TemplateEndsKept text text' := by
  induction size : text.length using Nat.strong_induction_on
    generalizing text text' position descriptor with
  | _ size ih =>
      cases renamed.recased with
      | nil => exact ⟨fun _ index among => (nomatch among), fun _ => result⟩
      | @cons c c' rest rest' same tail =>
          have marks : (c == '<') = (c' == '<') := caseless_mark c c' same
          by_cases marked : c = '<'
          · subst marked
            obtain rfl : c' = '<' := beq_iff_eq.mp marks.symm
            cases read : pieceOf ('<' :: rest) with
            | error cause =>
                rw [split_from_error read] at result
                cases result
            | ok piece =>
                rw [kept_piece read]
                by_cases near : ∀ index, TemplateEndAt ('<' :: rest) piece index →
                    ('<' :: rest)[index]? = ('<' :: rest')[index]?
                · have bounds := piece_size_bounds read
                  have read' := piece_recased renamed.recased read (renamed_near renamed read) near
                  cases taken : piece.taken code position descriptor with
                  | error which =>
                      rw [split_from_piece read, taken] at result
                      cases result
                  | ok extended =>
                      have taken' := (taken_recased recased piece).symm.trans taken
                      rw [split_from_jump read taken] at result
                      rw [split_from_jump read' taken', ih _ (by rw [← size, List.length_drop]; omega)
                        (by rw [← List.drop_drop, here]) (by rw [← List.drop_drop, here'])
                        (renamed_drop renamed read) result rfl]
                      exact (and_iff_right near).symm
                · obtain ⟨index, within, differ⟩ : ∃ index, TemplateEndAt ('<' :: rest) piece index ∧
                      ('<' :: rest)[index]? ≠ ('<' :: rest')[index]? := by
                    simpa using near
                  exact iff_of_false (template_refused renamed here here' read within differ result)
                    fun kept => near kept.1
          · have other : c' ≠ '<' := by
              rintro rfl
              exact marked (by simpa using marks)
            have next : code.drop (position + 1) = rest := by
              rw [← List.drop_drop, here, List.drop_one, List.tail_cons]
            have next' : code'.drop (position + 1) = rest' := by
              rw [← List.drop_drop, here', List.drop_one, List.tail_cons]
            rw [split_from_text marked] at result
            rw [split_from_text other, kept_tail marked]
            exact ih rest.length (by rw [← size]; simp) next next' (renamed_tail marked renamed)
              result rfl

/-- The letter case of tag names does not matter, except in the end tag of a template: a component
splits as before exactly if that is kept as it is. -/
theorem tag_case_matters {filename : String} (accepted : split code filename = .ok descriptor)
    (renamed : Renamed code code') :
    split code' filename = .ok descriptor ↔ TemplateEndsKept code code' :=
  split_from_renamed renamed.recased rfl rfl renamed accepted

end Runs

section Samples

def quietStyle : Text := '<' :: "style>y</style>".toList

def loudStyle : Text := '<' :: "STYLE>y</Style>".toList

def quietComponent : Text := '<' :: ("template>x</template>".toList ++ quietStyle)

def loudComponent : Text := '<' :: ("Template>x</template>".toList ++ loudStyle)

theorem quiet_component_read :
    pieceOf quietComponent = .ok (.block templateName [] 10 ['x'] 22) ∧
      quietComponent.drop 22 = quietStyle ∧ loudComponent.drop 22 = loudStyle ∧
      pieceOf quietStyle = .ok (.block "style".toList [] 7 ['y'] 16) := by
  decide +kernel

theorem loud_component_renamed : Renamed quietComponent loudComponent := by
  obtain ⟨template, behind, -, style⟩ := quiet_component_read
  have places : ∀ index < 38, quietComponent[index]? ≠ loudComponent[index]? →
      TagNameAt quietComponent (.block templateName [] 10 ['x'] 22) index ∨
        22 ≤ index ∧ TagNameAt quietStyle (.block "style".toList [] 7 ['y'] 16) (index - 22) := by
    decide +kernel
  refine renamed_of_places (by decide) fun index inside differ => ?_
  rcases places index inside differ with within | ⟨reach, within⟩
  · exact .here template within
  · have later : InPiece TagNameAt (quietComponent.drop 22) (index - 22) :=
      behind.symm ▸ .here style within
    rw [← Nat.add_sub_cancel' reach]
    exact .later template later

theorem loud_component_split :
    ∃ descriptor, split quietComponent "A.vue" = .ok descriptor ∧
      split loudComponent "A.vue" = .ok descriptor := by
  obtain ⟨template, behind, behind', style⟩ := quiet_component_read
  have accepted : (split quietComponent "A.vue").toOption.isSome = true := by decide +kernel
  obtain ⟨descriptor, accepted⟩ := Option.isSome_iff_exists.mp accepted
  have kept : TemplateEndsKept quietComponent loudComponent := by
    have ends : ∀ index < 22, TemplateEndAt quietComponent (.block templateName [] 10 ['x'] 22) index →
        quietComponent[index]? = loudComponent[index]? := by decide +kernel
    have near : ∀ index, TemplateEndAt quietComponent (.block templateName [] 10 ['x'] 22) index →
        quietComponent[index]? = loudComponent[index]? :=
      fun index within => ends index (names_inside template (Or.inr within.2)) within
    have far : TemplateEndsKept (quietComponent.drop 22) (loudComponent.drop 22) := by
      rw [behind, behind']
      exact (kept_piece style).mpr ⟨fun index within => absurd within.1 (by decide),
        fun index among => (nomatch among)⟩
    exact (kept_piece template).mpr ⟨near, far⟩
  have result := ok_of_to_option accepted
  exact ⟨descriptor, result, (tag_case_matters result loud_component_renamed).mpr kept⟩

def quietTemplate : Text := '<' :: "template>a</template>".toList

def loudTemplate : Text := '<' :: "template>a</TEMPLATE>".toList

/-- A template that is closed in upper case is not closed at all. -/
theorem template_end_case_sensitive :
    (∃ descriptor, split quietTemplate "Component.vue" = .ok descriptor) ∧
      Renamed quietTemplate loudTemplate ∧
      split loudTemplate "Component.vue" = .error ⟨.missingEndTag "template", 1⟩ := by
  refine ⟨?_, ?_, ?_⟩
  · have accepted : (split quietTemplate "Component.vue").toOption.isSome = true := by decide +kernel
    obtain ⟨descriptor, accepted⟩ := Option.isSome_iff_exists.mp accepted
    exact ⟨descriptor, ok_of_to_option accepted⟩
  · have read : pieceOf quietTemplate = .ok (.block templateName [] 10 ['a'] 22) := by decide +kernel
    have places : ∀ index < 22, quietTemplate[index]? ≠ loudTemplate[index]? →
        TagNameAt quietTemplate (.block templateName [] 10 ['a'] 22) index := by decide +kernel
    exact renamed_of_places (by decide) fun index inside differ =>
      .here read (places index inside differ)
  · have failed : pieceOf loudTemplate = .error (.missingEndTag "template") := by decide +kernel
    exact split_from_error failed

end Samples

end PatternInspector.Component
