import PatternInspector.Component.Pattern
import PatternInspector.Proofs.Component.Placement
import PatternInspector.Proofs.Text.Letters

/-!
What the pieces of a component depend on. All tags end with the next `>`, so a piece that has been
read is read again in every text that starts in the same way up to its end, and a component can be cut
behind a piece without changing it.
-/
namespace PatternInspector.Component

open PatternInspector.Text (Reader Cursor)
open PatternInspector.Text.Reader

section Tags

/-- Paired places stay paired over everything that stands in a tag before its end. -/
structure TagSteps (start : Cursor → Cursor → Prop) : Prop where
  opening : Steps (· == '<') start start
  letter : Steps Text.isLetter start start
  part : Steps isTagPart start start
  blank : Steps Text.isBlank start start
  inside : Steps (· != '>') start start
  slash : Steps (· == '/') start start

variable {start stop : Cursor → Cursor → Prop}

theorem parallel_open_tag {texts : Text → Text → Prop} {same : OpenTag → OpenTag → Prop}
    (steps : TagSteps start) (angle : Steps (· == '>') start stop)
    (passed : ∀ cursor cursor' place place', start cursor cursor' → start place place' →
      texts (cursor.rest.take (place.position - cursor.position))
        (cursor'.rest.take (place'.position - cursor'.position)))
    (given : ∀ tag tag' attributes attributes' selfClosing, texts tag tag' →
      texts attributes attributes' →
      same ⟨Text.lower tag, attributes, selfClosing⟩ ⟨Text.lower tag', attributes', selfClosing⟩) :
    Parallel start stop same openTag openTag := by
  have name : Parallel start start texts _ _ := parallel_matched
    (parallel_bind (parallel_char steps.letter) fun _ _ _ => parallel_many steps.part) passed
  have raw : Parallel start start texts _ _ := parallel_matched (parallel_optional
    (parallel_bind (parallel_many1 steps.blank) fun _ _ _ => parallel_few steps.inside)
    (fun _ _ same => congrArg some same) rfl) passed
  have slash : Parallel start start Eq _ _ := parallel_optional (parallel_single steps.slash)
    (fun _ _ same => congrArg some same) rfl
  refine parallel_bind (parallel_single steps.opening) fun _ _ _ => ?_
  refine parallel_bind name fun tag tag' named => ?_
  refine parallel_bind raw fun attributes attributes' written => ?_
  refine parallel_bind (parallel_many steps.blank) fun _ _ _ => ?_
  refine parallel_bind slash fun slash slash' equal => ?_
  refine parallel_bind (parallel_single angle) fun _ _ _ => ?_
  subst equal
  exact parallel_pure (given tag tag' attributes attributes' slash.isSome named written)

theorem parallel_end_tag {tag : Text} (steps : TagSteps start)
    (spelled : ∀ c ∈ tag, Steps (Text.sameLetter c) start start)
    (angle : Steps (· == '>') start stop) : Parallel start stop Eq (endTag tag) (endTag tag) := by
  have letters : Parallel start start Eq (endTag.sameLetters tag) (endTag.sameLetters tag) := by
    induction tag with
    | nil => exact parallel_pure rfl
    | cons c tag ih =>
        refine parallel_bind (parallel_char (spelled c (by simp))) fun _ _ _ => ?_
        exact ih fun d member => spelled d (by simp [member])
  refine parallel_bind (parallel_chars fun c member => ?_) fun _ _ _ => ?_
  · rcases List.mem_cons.mp member with rfl | member
    · exact steps.opening
    · obtain rfl := List.mem_singleton.mp member
      exact steps.slash
  refine parallel_bind letters fun _ _ _ => ?_
  exact parallel_bind (parallel_many steps.blank) fun _ _ _ => parallel_single angle

theorem tag_steps_ahead (stop : Nat) (rest rest' : Text) : TagSteps (Ahead '>' stop rest rest') where
  opening := steps_ahead (by decide)
  letter := steps_ahead (by decide)
  part := steps_ahead (by decide)
  blank := steps_ahead (by decide)
  inside := steps_ahead (by decide)
  slash := steps_ahead (by decide)

theorem bounded_open_tag : Bounded '>' openTag := by
  refine bounded_of_parallel ?_ fun stop rest rest' => ?_
  · unfold openTag
    exact ends_after fun _ => ends_after fun _ => ends_after fun _ => ends_after fun _ =>
      ends_after fun _ => ends_then_pure (ends_single rfl) _
  · refine parallel_open_tag (tag_steps_ahead stop rest rest') steps_mark
      (fun _ _ _ _ => ahead_passed) fun tag tag' attributes attributes' _ named written => ?_
    rw [named, written]

theorem bounded_end_tag {tag : Text} (closed : '>' ∉ tag) : Bounded '>' (endTag tag) := by
  refine bounded_of_parallel ?_ fun stop rest rest' => ?_
  · refine Text.Reader.covers_mono (covers_end_tag tag) ?_
    rintro _ _ ⟨name, gap, rfl, -⟩
    exact ⟨'<' :: '/' :: (name ++ gap), '>', by simp, rfl⟩
  · refine parallel_end_tag (tag_steps_ahead stop rest rest') (fun c member => ?_) steps_mark
    exact steps_ahead (Text.same_letter_angle fun same => closed (same ▸ member))

theorem bounded_template_tag : Bounded '>' templateTag := by
  refine bounded_of_parallel ?_ fun stop rest rest' => ?_
  · refine ends_or ?_ ?_
    · exact ends_after fun _ => ends_after fun _ => ends_after fun _ => ends_after fun _ =>
        ends_then_pure (ends_single rfl) _
    · exact ends_after fun _ => ends_after fun _ => ends_then_pure (ends_single rfl) _
  · have steps := tag_steps_ahead stop rest rest'
    have letters : ∀ text : Text, '>' ∉ text → Parallel (Ahead '>' stop rest rest')
        (Ahead '>' stop rest rest') Eq (chars text) (chars text) := by
      intro text absent
      refine parallel_chars fun c member => steps_ahead ?_
      exact beq_eq_false_iff_ne.mpr fun same => absent (same ▸ member)
    refine parallel_or ?_ ?_
    · refine parallel_bind (letters _ (by decide)) fun _ _ _ => ?_
      refine parallel_bind (parallel_provided fun _ _ ahead => by rw [ahead_head ahead]) fun _ _ _ => ?_
      refine parallel_bind (parallel_few steps.inside) fun _ _ _ => ?_
      refine parallel_bind (parallel_optional (parallel_single steps.slash)
        (fun _ _ same => congrArg some same) rfl) fun slash slash' equal => ?_
      subst equal
      exact parallel_bind (parallel_single steps_mark) fun _ _ _ => parallel_pure rfl
    · refine parallel_bind (letters _ (by decide)) fun _ _ _ => ?_
      refine parallel_bind (parallel_many steps.blank) fun _ _ _ => ?_
      exact parallel_bind (parallel_single steps_mark) fun _ _ _ => parallel_pure rfl

/-- An open tag as it is read: its name takes all name characters, and its raw attributes follow. -/
structure OpenForm (passed : Text) (found : OpenTag) (name tail : Text) : Prop where
  text : passed = '<' :: (name ++ (found.attributes ++ tail))
  tag : found.tag = Text.lower name
  named : ∀ c ∈ name, isTagPart c = true
  ended : ∃ c others, found.attributes ++ tail = c :: others ∧ isTagPart c = false

theorem letter_tag_part {c : Char} (letter : Text.isLetter c = true) : isTagPart c = true := by
  have start : Text.isNameStart c = true := by simp [Text.isNameStart, letter]
  have part := Text.name_start_part start
  have dollar : c ≠ '$' := Text.ne_of_class letter (by decide)
  simpa [isTagPart, Text.isNamePart, dollar] using Or.inl part

theorem covers_open_tag :
    Covers openTag fun passed found => ∃ name tail, OpenForm passed found name tail := by
  have name := covers_matched (covers_bind (covers_char Text.isLetter) fun _ => covers_many isTagPart)
  have raw := covers_matched (covers_or (covers_bind (covers_bind (covers_bind
    (covers_char Text.isBlank) fun _ => covers_many Text.isBlank) fun _ => covers_few (· != '>'))
    fun value => covers_pure (some value)) (covers_pure none))
  refine covers_mono (covers_bind (covers_single '<') fun _ => covers_bind name fun tag =>
    covers_bind raw fun attributes => covers_bind (covers_many Text.isBlank) fun _ =>
    covers_bind covers_slash fun slash => covers_bind (covers_single '>') fun _ =>
    covers_pure (OpenTag.mk (Text.lower tag) attributes slash.isSome)) ?_
  rintro _ _ ⟨_, _, _, rfl, rfl, name, _, _, rfl, ⟨rfl, _, _, _, c, rfl, ⟨rfl, letter⟩, parts⟩, raw,
    _, _, rfl, ⟨rfl, _, written⟩, gap, _, _, rfl, white, mark, _, _, rfl, marked, _, _, _, rfl, rfl,
    rfl, rfl⟩
  refine ⟨_, gap ++ (mark ++ ['>']), by simp, rfl, ?_, ?_⟩
  · intro d member
    rcases List.mem_append.mp member with member | member
    · obtain rfl := List.mem_singleton.mp member
      exact letter_tag_part letter
    · exact parts d member
  · -- The raw attributes start with a blank; without any, a blank or the end of the tag follows.
    rcases written with ⟨_, _, _, rfl, ⟨_, _, _, rfl, ⟨_, _, d, rfl, ⟨rfl, blank⟩, _⟩, _⟩, _⟩ | ⟨rfl, _⟩
    · exact ⟨d, _, rfl, blank_ends_name blank⟩
    · cases gap with
      | nil => rcases marked with rfl | rfl <;> exact ⟨_, _, rfl, by decide⟩
      | cons d gap => exact ⟨d, _, rfl, blank_ends_name (white d (by simp))⟩

theorem open_form_angle {passed name tail : Text} {found : OpenTag}
    (form : OpenForm passed found name tail) : '>' ∉ found.tag := by
  rw [form.tag]
  refine Text.lower_after_angle fun member => ?_
  exact Text.ne_of_class (form.named _ member) (by decide) rfl

end Tags

section Contents

theorem balanced_split {depth : Nat} {tags : List (Found TemplateTag)} {inside stop : Nat}
    (closed : balanced depth tags = some (inside, stop)) :
    ∃ earlier found later, tags = earlier ++ found :: later ∧ found.value = .closing ∧
      found.start = inside ∧ found.stop = stop ∧
      ∀ later', balanced depth (earlier ++ found :: later') = some (inside, stop) := by
  induction tags generalizing depth with
  | nil => simp [balanced] at closed
  | cons first tags ih =>
      have later : ∀ {depth'}, balanced depth' tags = some (inside, stop) →
          (∀ tags, balanced depth (first :: tags) = balanced depth' tags) →
          ∃ earlier found later, first :: tags = earlier ++ found :: later ∧
            found.value = .closing ∧ found.start = inside ∧ found.stop = stop ∧
            ∀ later', balanced depth (earlier ++ found :: later') = some (inside, stop) := by
        intro depth' closed passes
        obtain ⟨earlier, found, later, rfl, closing, start, stop, kept⟩ := ih closed
        refine ⟨first :: earlier, found, later, rfl, closing, start, stop, fun later' => ?_⟩
        rw [List.cons_append, passes, kept]
      rw [balanced] at closed
      split at closed
      next opening => exact later closed fun tags => by rw [balanced, opening]
      next selfClosed => exact later closed fun tags => by rw [balanced, selfClosed]
      next closing =>
        split at closed
        next last =>
          obtain ⟨rfl, rfl⟩ := Prod.mk.inj (Option.some.inj closed)
          refine ⟨[], first, tags, rfl, closing, rfl, rfl, fun later' => ?_⟩
          rw [List.nil_append, balanced, closing]
          exact if_pos last
        next nested =>
          refine later closed fun tags => ?_
          rw [balanced, closing]
          exact if_neg nested

theorem content_end_stop {tag rest : Text} {inside stop : Nat}
    (ended : contentEnd? tag rest = some (inside, stop)) : stop ≤ rest.length := by
  unfold contentEnd? at ended
  split at ended
  next =>
    obtain ⟨found, member, rfl, rfl⟩ := balanced_found ended
    obtain ⟨_, _, _, rfl, _, start, stop⟩ := find_all_found covers_template_tag member
    simp only [List.length_append]
    omega
  next =>
    obtain ⟨found, searched, same⟩ := Option.map_eq_some_iff.mp ended
    obtain ⟨rfl, rfl⟩ := Prod.mk.inj same
    obtain ⟨_, _, _, rfl, _, start, stop⟩ := search_found (covers_end_tag tag) searched
    simp only [List.length_append]
    omega

theorem content_end_kept {tag rest : Text} {inside stop : Nat} (angle : '>' ∉ tag)
    (ended : contentEnd? tag rest = some (inside, stop)) (more : Text) :
    contentEnd? tag (rest.take stop ++ more) = some (inside, stop) := by
  unfold contentEnd? at ended ⊢
  split at ended
  next template =>
    obtain ⟨earlier, found, later, all, -, -, rfl, kept⟩ := balanced_split ended
    obtain ⟨later', again⟩ := find_all_cut bounded_template_tag all more
    rw [if_pos template, again, kept]
  next other =>
    have bounded := bounded_end_tag angle
    rw [search_head bounded] at ended
    obtain ⟨found, searched, same⟩ := Option.map_eq_some_iff.mp ended
    obtain ⟨rfl, rfl⟩ := Prod.mk.inj same
    obtain ⟨later, all⟩ := List.head?_eq_some_iff.mp searched
    obtain ⟨later', again⟩ := find_all_cut bounded (show _ = [] ++ found :: later from all) more
    rw [if_neg other, search_head bounded, again]
    rfl

end Contents

section Pieces

inductive Outcome (text : Text) : Except SplitCause Piece → Prop
  | unterminated (starts : commentStart.isPrefixOf text = true)
      (open' : Text.find? commentEnd (text.drop commentStart.length) = none) :
      Outcome text (.error .unterminatedComment)
  | comment {inside : Nat} (starts : commentStart.isPrefixOf text = true)
      (closed : Text.find? commentEnd (text.drop commentStart.length) = some inside) :
      Outcome text (.ok (.comment (commentStart.length + inside + commentEnd.length)))
  | plain (starts : commentStart.isPrefixOf text = false)
      (untagged : openTag.first? (Cursor.start text) = none) : Outcome text (.ok .plain)
  | selfClosed {found : OpenTag} {after : Cursor} (starts : commentStart.isPrefixOf text = false)
      (tagged : openTag.first? (Cursor.start text) = some (found, after))
      (closing : found.selfClosing = true) :
      Outcome text (.ok (.block found.tag (parseAttributes found.attributes) after.position []
        after.position))
  | endless {found : OpenTag} {after : Cursor} (starts : commentStart.isPrefixOf text = false)
      (tagged : openTag.first? (Cursor.start text) = some (found, after))
      (opening : found.selfClosing = false) (unended : contentEnd? found.tag after.rest = none) :
      Outcome text (.error (.missingEndTag (String.ofList found.tag)))
  | element {found : OpenTag} {after : Cursor} {inside stop : Nat}
      (starts : commentStart.isPrefixOf text = false)
      (tagged : openTag.first? (Cursor.start text) = some (found, after))
      (opening : found.selfClosing = false)
      (ended : contentEnd? found.tag after.rest = some (inside, stop)) :
      Outcome text (.ok (.block found.tag (parseAttributes found.attributes) after.position
        (after.rest.take inside) (after.position + stop)))

theorem piece_of_outcome (text : Text) : Outcome text (pieceOf text) := by
  unfold pieceOf
  split
  next starts =>
    split
    next open' => exact .unterminated starts open'
    next inside closed => exact .comment starts closed
  next starts =>
    have starts := Bool.eq_false_iff.mpr starts
    split
    next untagged => exact .plain starts untagged
    next found after tagged =>
      dsimp only
      split
      next closing => exact .selfClosed starts tagged closing
      next opening =>
        have opening := Bool.eq_false_iff.mpr opening
        split
        next unended => exact .endless starts tagged opening unended
        next inside stop ended => exact .element starts tagged opening ended

theorem outcome_piece_of {text : Text} {outcome : Except SplitCause Piece}
    (given : Outcome text outcome) : pieceOf text = outcome := by
  cases given with
  | unterminated starts open' => simp [pieceOf, starts, open']
  | comment starts closed => simp [pieceOf, starts, closed]
  | plain starts untagged => simp [pieceOf, starts, untagged]
  | selfClosed starts tagged closing => simp [pieceOf, starts, tagged, closing]
  | endless starts tagged opening unended => simp [pieceOf, starts, tagged, opening, unended]
  | element starts tagged opening ended => simp [pieceOf, starts, tagged, opening, ended]

def Piece.size : Piece → Nat
  | plain => 1
  | comment length => length
  | block _ _ _ _ length => length

theorem find_kept {needle text more : Text} {index : Nat}
    (found : Text.find? needle (text ++ more) = some index)
    (reach : index + needle.length ≤ text.length) : Text.find? needle text = some index := by
  induction text generalizing index with
  | nil =>
      obtain ⟨rfl, none⟩ : index = 0 ∧ needle.length = 0 := by
        simp only [List.length_nil] at reach
        omega
      simp [Text.find?, List.eq_nil_of_length_eq_zero none]
  | cons c text ih =>
      rw [List.cons_append, Text.find?] at found
      rw [Text.find?]
      split at found
      next starts =>
        obtain rfl := Option.some.inj found
        have starts : needle <+: (c :: text) ++ more := List.isPrefixOf_iff_prefix.mp starts
        rw [Nat.zero_add] at reach
        rw [if_pos (List.isPrefixOf_iff_prefix.mpr
          (List.prefix_of_prefix_length_le starts (List.prefix_append _ more) reach))]
      next elsewhere =>
        obtain ⟨inner, later, rfl⟩ := Option.map_eq_some_iff.mp found
        have absent : ¬ needle.isPrefixOf (c :: text) = true := fun starts => elsewhere
          (List.isPrefixOf_iff_prefix.mpr
            ((List.isPrefixOf_iff_prefix.mp starts).trans (List.prefix_append _ more)))
        rw [if_neg absent, ih later (by rw [List.length_cons] at reach; omega)]
        rfl

theorem comment_start_kept {front more : Text} (starts : commentStart.isPrefixOf (front ++ more) = false) :
    commentStart.isPrefixOf front = false := by
  rw [Bool.eq_false_iff] at starts ⊢
  exact fun shorter => starts (List.isPrefixOf_iff_prefix.mpr
    ((List.isPrefixOf_iff_prefix.mp shorter).trans (List.prefix_append _ more)))

theorem open_tag_kept {front more : Text} {found : OpenTag} {after : Cursor}
    (tagged : openTag.first? (Cursor.start (front ++ more)) = some (found, after))
    (reach : after.position ≤ front.length) :
    ∃ front', after.rest = front' ++ more ∧ front.length = after.position + front'.length ∧
      openTag.first? (Cursor.start front) =
        some (found, ⟨after.position, after.before, front'⟩) := by
  obtain ⟨read, split, place, kept⟩ := first_kept bounded_open_tag tagged
  have here : after = Cursor.behind 0 none read after.rest := by
    have again := kept after.rest
    rw [← split] at again
    exact (Prod.mk.inj (Option.some.inj (tagged.symm.trans again))).2
  obtain ⟨front', rfl⟩ : read <+: front :=
    List.prefix_of_prefix_length_le (split ▸ List.prefix_append _ _) (List.prefix_append _ more)
      (by omega)
  rw [List.append_assoc] at split
  refine ⟨front', (List.append_cancel_left split).symm, ?_, ?_⟩
  · rw [List.length_append, place, Nat.zero_add]
  · rw [here]
    exact kept front'

/-- A piece that ends inside a text is read without what follows the text. -/
theorem piece_kept {front more : Text} {piece : Piece} (read : pieceOf (front ++ more) = .ok piece)
    (reach : piece.size ≤ front.length) : pieceOf front = .ok piece := by
  have outcome := piece_of_outcome (front ++ more)
  rw [read] at outcome
  refine outcome_piece_of ?_
  cases outcome with
  | @comment inside starts closed =>
      have size : commentStart.length ≤ front.length := by
        simp only [Piece.size] at reach
        omega
      refine .comment ?_ (@find_kept _ _ more _ ?_ ?_)
      · exact List.isPrefixOf_iff_prefix.mpr (List.prefix_of_prefix_length_le
          (List.isPrefixOf_iff_prefix.mp starts) (List.prefix_append _ more) size)
      · rwa [List.drop_append_of_le_length size] at closed
      · simp only [Piece.size, List.length_drop] at reach ⊢
        omega
  | plain starts untagged =>
      exact .plain (comment_start_kept starts) (first_none_before bounded_open_tag untagged)
  | @selfClosed found after starts tagged closing =>
      obtain ⟨front', -, -, tagged'⟩ := open_tag_kept tagged reach
      exact @Outcome.selfClosed front found ⟨after.position, after.before, front'⟩
        (comment_start_kept starts) tagged' closing
  | @element found after inside stop starts tagged opening ended =>
      have reach : after.position + stop ≤ front.length := reach
      obtain ⟨front', rest, size, tagged'⟩ := open_tag_kept tagged (by omega)
      have order := content_end_le ended
      have form := covers_open_tag _ _ (List.mem_of_head? tagged)
      obtain ⟨_, ⟨name, tail, form⟩, -⟩ := form
      have ended' := content_end_kept (open_form_angle form) ended (front'.drop stop)
      rw [rest, List.take_append_of_le_length (by omega), List.take_append_drop] at ended'
      rw [rest, List.take_append_of_le_length (by omega)]
      exact .element (comment_start_kept starts) tagged' opening ended'

end Pieces

section Steps

variable {code : Text} {descriptor : Descriptor} {position : Nat}

def Piece.taken (code : Text) (position : Nat) (descriptor : Descriptor) :
    Piece → Except UniqueBlock Descriptor
  | plain => .ok descriptor
  | comment _ => .ok descriptor
  | block tag attributes inset content _ =>
      assign descriptor ⟨String.ofList tag, content, attributes,
        Text.newlines (code.take (position + inset))⟩

theorem split_from_text {c : Char} (text : c ≠ '<') (rest : Text) :
    splitFrom code descriptor position 0 (c :: rest) =
      splitFrom code descriptor (position + 1) 0 rest := by
  rw [splitFrom, if_neg (by simpa using text)]

theorem split_from_error {rest : Text} {cause : SplitCause}
    (failed : pieceOf ('<' :: rest) = .error cause) :
    splitFrom code descriptor position 0 ('<' :: rest) =
      .error ⟨cause, Text.lineAt code position⟩ := by
  rw [splitFrom, if_pos (beq_self_eq_true _), failed]

theorem split_from_piece {rest : Text} {piece : Piece} (read : pieceOf ('<' :: rest) = .ok piece) :
    splitFrom code descriptor position 0 ('<' :: rest) =
      match piece.taken code position descriptor with
      | .error which => .error ⟨.duplicate which, Text.lineAt code position⟩
      | .ok extended => splitFrom code extended (position + 1) (piece.size - 1) rest := by
  rw [splitFrom, if_pos (beq_self_eq_true _), read]
  cases piece <;> rfl

theorem taken_cut {text : Text} {piece : Piece} {reach : Nat} (read : pieceOf text = .ok piece)
    (inside : position + piece.size ≤ reach) :
    piece.taken (code.take reach) position descriptor = piece.taken code position descriptor := by
  cases piece with
  | plain => rfl
  | comment length => rfl
  | block tag attributes inset content length =>
      have order := (piece_of_block_stands read).2
      simp only [Piece.size] at inside
      rw [Piece.taken, List.take_take, Nat.min_eq_left (by omega), Piece.taken]

end Steps

end PatternInspector.Component
