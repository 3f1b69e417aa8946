import PatternInspector.Proofs.Literal.Key
import PatternInspector.Proofs.Literal.Segment

/-!
Members of object and type literals as they are written. Every part carries the conditions under
which it stands for itself, so a written member is well formed by its type. A member is closed text,
and the entry of the segment that holds it, behind white space and comments, has its key and value.
-/
namespace PatternInspector.Literal

open PatternInspector.Text (Reader Avoids)
open PatternInspector.Text.Reader

section Written

structure Identifier where
  text : Text
  valid : isIdentifier text = true

structure QuotedName where
  quote : Char
  text : Text
  mark : Text.isQuote quote = true
  nonempty : text ≠ []
  inside : ∀ c ∈ text, c ≠ '\\' ∧ Text.isQuote c = false

inductive Key where
  | name (identifier : Identifier)
  | quoted (given : QuotedName)

def Key.text : Key → Text
  | .name identifier => identifier.text
  | .quoted given => given.text

def Key.render : Key → Text
  | .name identifier => identifier.text
  | .quoted given => given.quote :: (given.text ++ [given.quote])

structure ClosedText (typeLiteral : Bool) where
  text : Text
  closed : Closed typeLiteral (isSeparator typeLiteral) ' ' text
  trimmed : Text.strip text = text

/-- A member of a literal. Only members of types can be optional; the tail of a method starts with
its parameters; a spread and a computed key name nothing. -/
inductive Member (typeLiteral : Bool) where
  | property (key : Key) (isOptional : Bool) (permitted : isOptional = true → typeLiteral = true)
      (value : ClosedText typeLiteral)
  | method (name : Identifier) (tail : ClosedText typeLiteral)
      (called : tail.text.head? = some '(')
  | shorthand (name : Identifier)
  | spread (source : Text) (closed : Closed typeLiteral (isSeparator typeLiteral) '.' source)
  | computed (source : Text) (closed : Closed typeLiteral (fun _ => false) '[' source)
      (value : ClosedText typeLiteral)

def renderValue (value : Text) : Text := ':' :: ' ' :: value

def questionMark (isOptional : Bool) : Text := if isOptional then ['?'] else []

namespace Member

variable {typeLiteral : Bool}

def render : Member typeLiteral → Text
  | property key isOptional _ value =>
      key.render ++ (questionMark isOptional ++ renderValue value.text)
  | method name tail _ => name.text ++ tail.text
  | shorthand name => name.text
  | spread source _ => '.' :: '.' :: '.' :: source
  | computed source _ value => '[' :: (source ++ ']' :: renderValue value.text)

/-- The name of a member and its value, the whole member where it has no colon. -/
def named? : Member typeLiteral → Option (String × Text)
  | property key _ _ value => some (String.ofList key.text, value.text)
  | method name tail _ => some (String.ofList name.text, name.text ++ tail.text)
  | shorthand name => some (String.ofList name.text, name.text)
  | spread _ _ => none
  | computed _ _ _ => none

end Member

end Written

section Closedness

variable {typeLiteral : Bool} {before : Char} {rest : Text}

theorem name_part_ordinary {c : Char} (part : Text.isNamePart c = true) : c ∉ scanMarks :=
  class_not_mark (Text.each_of_all (by decide)) part

theorem name_part_no_separator {c : Char} (part : Text.isNamePart c = true) :
    isSeparator typeLiteral c = false := by
  have comma := Text.ne_of_class part (d := ',') (by decide)
  have semicolon := Text.ne_of_class part (d := ';') (by decide)
  have newline := Text.ne_of_class part (d := '\n') (by decide)
  simp [isSeparator, comma, semicolon, newline]

theorem blank_ordinary {c : Char} (white : Text.isBlank c = true) : c ∉ scanMarks :=
  class_not_mark (Text.each_of_all (by decide)) white

theorem quoted_name_body (given : QuotedName) : QuotedBody given.quote given.text := by
  have inside := given.inside
  have mark := given.mark
  generalize given.text = text at inside
  induction text with
  | nil => exact .nil
  | cons c text ih =>
      obtain ⟨unescaped, unquoted⟩ := inside c (by simp)
      refine .plain unescaped ?_ (ih fun d member => inside d (by simp [member]))
      exact (Text.ne_of_class mark unquoted).symm

theorem quote_is_mark {quote : Char} (mark : Text.isQuote quote = true) :
    isQuoteMark quote = true := by
  simp only [Text.isQuote, Bool.or_eq_true, beq_iff_eq] at mark
  rcases mark with rfl | rfl <;> rfl

theorem key_closed (key : Key) {barred : Char → Bool}
    (free : ∀ c, Text.isNamePart c = true → barred c = false)
    (tail : Closed typeLiteral barred (Text.lastAfter before key.render) rest) :
    Closed typeLiteral barred before (key.render ++ rest) := by
  cases key with
  | name identifier =>
      have parts := identifier_parts identifier.valid
      exact closed_text (fun c member => name_part_ordinary (parts c member))
        (fun c member => free c (parts c member)) tail
  | quoted given =>
      exact .trivia (.quoted (quote_is_mark given.mark) (quoted_name_body given)) tail

theorem value_closed (value : ClosedText typeLiteral) :
    Closed typeLiteral (isSeparator typeLiteral) before (renderValue value.text) := by
  refine closed_mark (by decide) (by cases typeLiteral <;> rfl) ?_
  exact closed_mark (by decide) (by cases typeLiteral <;> rfl) (closed_before value.closed ' ')

theorem member_closed (member : Member typeLiteral) (before : Char) :
    Closed typeLiteral (isSeparator typeLiteral) before member.render := by
  cases member with
  | property key isOptional permitted value =>
      refine key_closed key (fun _ => name_part_no_separator) ?_
      cases isOptional with
      | false => exact value_closed value
      | true =>
          exact closed_mark (by decide) (by cases typeLiteral <;> rfl) (value_closed value)
  | method name tail called =>
      exact key_closed (.name name) (fun _ => name_part_no_separator) (closed_before tail.closed _)
  | shorthand name =>
      have closed := key_closed (.name name) (fun _ => name_part_no_separator)
        (.nil : Closed typeLiteral (isSeparator typeLiteral) (Text.lastAfter before name.text) [])
      simpa [Key.render, Member.render] using closed
  | spread source closed =>
      have dot : ∀ {before rest}, Closed typeLiteral (isSeparator typeLiteral) '.' rest →
          Closed typeLiteral (isSeparator typeLiteral) before ('.' :: rest) :=
        closed_mark (by decide) (by cases typeLiteral <;> rfl)
      exact dot (dot (dot closed))
  | computed source closed value =>
      exact .group (by simp [opens]) rfl closed (by simp [closes]) (value_closed value)

end Closedness

section Gaps

theorem drop_comments_skip (skipped after : Text) :
    dropCommentsFrom skipped.length (skipped ++ after) = dropComments after := by
  induction skipped with
  | nil => rfl
  | cons c skipped ih => exact ih

theorem drop_comments_here {c : Char} {rest : Text} (dark : Text.isBlank c = false)
    (code : startsComment (c :: rest) = false) : dropComments (c :: rest) = c :: rest := by
  simp [dropComments, dropCommentsFrom, dark, code]

theorem drop_comments_blank {c : Char} (white : Text.isBlank c = true) (after : Text) :
    dropComments (c :: after) = dropComments after := by
  simp [dropComments, dropCommentsFrom, white]

theorem drop_comments_trivia {token after : Text} (delimited : Trivia token after)
    (comment : startsComment (token ++ after) = true) :
    dropComments (token ++ after) = dropComments after := by
  have length := trivia_length_complete delimited
  obtain ⟨first, others, rfl⟩ := trivia_nonempty delimited
  simp only [List.cons_append, starts_comment_cons, Bool.and_eq_true, beq_iff_eq] at comment length
  obtain ⟨rfl, second⟩ := comment
  have starts : startsComment ('/' :: (others ++ after)) = true := by
    simpa [starts_comment_cons] using second
  have dark : Text.isBlank '/' = false := by decide
  rw [List.cons_append, dropComments, dropCommentsFrom]
  simp only [dark, starts, length, List.length_cons, Nat.add_sub_cancel]
  exact drop_comments_skip others after

theorem drop_comments_open {body : Text} (endless : '\n' ∉ body) :
    dropComments ('/' :: '/' :: body) = [] := by
  have length : triviaLength ('/' :: '/' :: body) = ('/' :: body).length + 1 := by
    have whole := @line_length_open ('/' :: '/' :: body) (by simpa using endless)
    simpa [triviaLength, isQuoteMark, startsLineComment] using whole
  have dark : Text.isBlank '/' = false := by decide
  have starts : startsComment ('/' :: '/' :: body) = true := by simp [starts_comment_cons]
  rw [dropComments, dropCommentsFrom]
  simp only [dark, starts, length, Nat.add_sub_cancel]
  have dropped := drop_comments_skip ('/' :: body) []
  rw [List.append_nil] at dropped
  exact dropped

/-- Text that leaves no trace in front of a member. -/
def Void (held : Text) : Prop := ∀ after, dropComments (held ++ after) = dropComments after

theorem void_nil : Void [] := fun _ => rfl

theorem void_append {left right : Text} (first : Void left) (second : Void right) :
    Void (left ++ right) := by
  intro after
  rw [List.append_assoc, first, second]

theorem void_blank {c : Char} (white : Text.isBlank c = true) : Void [c] :=
  drop_comments_blank white

theorem void_line {body : Text} (inside : '\n' ∉ body) : Void ('/' :: '/' :: (body ++ ['\n'])) := by
  intro after
  have delimited : Trivia ('/' :: '/' :: body) ('\n' :: after) := .line inside
  have dropped := drop_comments_trivia delimited (by simp [starts_comment_cons])
  rw [drop_comments_blank (by decide)] at dropped
  simpa using dropped

theorem void_block {body : Text} (inside : BlockBody body) :
    Void ('/' :: '*' :: (body ++ ['*', '/'])) := by
  intro after
  exact drop_comments_trivia (.block inside) (by simp [starts_comment_cons])

end Gaps

section Names

def nameOf? (segment : Text) : Option (String × Text) :=
  (entryOf? 0 segment).map fun entry => (entry.key, entry.value)

def namesOf (segments : List Text) : List (String × Text) := segments.filterMap nameOf?

-- Where a segment starts decides the place of its entry only.
theorem entry_name (start : Nat) (segment : Text) :
    (entryOf? start segment).map (fun entry => (entry.key, entry.value)) = nameOf? segment := by
  unfold nameOf? entryOf?
  split
  next => rfl
  next =>
    dsimp only
    split
    next => rfl
    next =>
      split
      next => rfl
      next => rfl

theorem placed_names (start : Nat) (segments : List Text) :
    ((placed start segments).filterMap fun segment => entryOf? segment.1 segment.2).map
      (fun entry => (entry.key, entry.value)) = namesOf segments := by
  induction segments generalizing start with
  | nil => rfl
  | cons segment others ih =>
      have tail := ih (start + segment.length + 1)
      have head := entry_name start segment
      simp only [List.map_filterMap, namesOf] at tail ⊢
      rw [placed, List.filterMap_cons, List.filterMap_cons, head, tail]

theorem name_of_nothing {segment : Text} (nothing : dropComments segment = []) :
    nameOf? segment = none := by
  simp [nameOf?, entryOf?, nothing, Text.strip, Text.dropBlanks, Text.dropBlanksEnd]

theorem void_nameless {held : Text} (void : Void held) : nameOf? held = none := by
  have nothing := void []
  rw [List.append_nil] at nothing
  exact name_of_nothing nothing

theorem name_of_spread {segment rest : Text}
    (stripped : Text.strip (dropComments segment) = '.' :: '.' :: '.' :: rest) :
    nameOf? segment = none := by
  simp [nameOf?, entryOf?, stripped, isSpread, List.isPrefixOf]

theorem name_of_keyless {segment rest : Text} {c : Char}
    (stripped : Text.strip (dropComments segment) = c :: rest)
    (keyless : ∀ limit, Fails (memberKey limit) (c :: rest)) : nameOf? segment = none := by
  simp [nameOf?, entryOf?, stripped, Text.Cursor.start, fails_first (keyless _)]

theorem name_of_key {segment read after key : Text} {mark : Option Char}
    (stripped : Text.strip (dropComments segment) = read ++ after)
    (starts : ∃ c rest, read = c :: rest ∧ c ≠ '.')
    (reads : ∀ limit, Reads (memberKey limit) none read after (key, mark)) :
    nameOf? segment =
      some (String.ofList key, if mark == some ':' then Text.strip after else read ++ after) := by
  obtain ⟨c, rest, rfl, named⟩ := starts
  have noSpread : isSpread (c :: (rest ++ after)) = false := by
    simp [isSpread, List.isPrefixOf, named.symm]
  have first := fun limit => reads limit 0
  simp only [List.cons_append] at first stripped ⊢
  simp [nameOf?, entryOf?, stripped, noSpread, Text.Cursor.start, first, Text.Cursor.behind]

end Names

section Members

variable {typeLiteral : Bool}

theorem name_start_marks {c : Char} (start : Text.isNameStart c = true) :
    Text.isBlank c = false ∧ c ≠ '/' ∧ c ≠ '.' ∧ c ≠ '*' ∧ Text.isQuote c = false := by
  refine ⟨Text.name_part_not_blank (Text.name_start_part start), ?_, ?_, ?_, ?_⟩
  · exact Text.ne_of_class start (by decide)
  · exact Text.ne_of_class start (by decide)
  · exact Text.ne_of_class start (by decide)
  · have single := Text.ne_of_class start (d := '\'') (by decide)
    have double := Text.ne_of_class start (d := '"') (by decide)
    simp [Text.isQuote, single, double]

theorem quote_marks {c : Char} (mark : Text.isQuote c = true) :
    Text.isBlank c = false ∧ c ≠ '/' ∧ c ≠ '.' ∧ c ≠ '*' := by
  simp only [Text.isQuote, Bool.or_eq_true, beq_iff_eq] at mark
  rcases mark with rfl | rfl <;> decide

structure KeyShape (key : Key) : Prop where
  starts : ∃ c rest, key.render = c :: rest ∧ Text.isBlank c = false ∧ c ≠ '/' ∧ c ≠ '.' ∧ c ≠ '*'
  unmodified : ∀ after, Avoids Text.isNamePart after → Avoids Text.isBlank after →
    Fails (do Reader.words modifierWords; Reader.blanks1) (key.render ++ after)
  keyed : ∀ after, Avoids Text.isNamePart after →
    Reads (orElse quotedKey (matched Reader.name)) none key.render after key.text

theorem key_shape (key : Key) : KeyShape key := by
  cases key with
  | name identifier =>
      obtain ⟨c, rest, same, start⟩ := identifier_starts identifier.valid
      obtain ⟨dark, slash, dot, star, unquoted⟩ := name_start_marks start
      refine ⟨⟨c, rest, same, dark, slash, dot, star⟩, ?_, ?_⟩
      · exact fun after ends tight => modifiers_refuse (identifier_parts identifier.valid) ends tight
      · intro after ends
        refine reads_or_right ?_ (reads_identifier identifier.valid ends)
        rw [Key.render, same]
        exact fails_bind (fails_char (Text.avoids_cons unquoted _)) _
  | quoted given =>
      obtain ⟨dark, slash, dot, star⟩ := quote_marks given.mark
      refine ⟨⟨given.quote, _, rfl, dark, slash, dot, star⟩, ?_, ?_⟩
      · exact fun after _ _ => quote_no_modifier given.mark _
      · intro after _
        obtain ⟨c, rest, same⟩ := List.exists_cons_of_ne_nil given.nonempty
        have absent : given.quote ∉ rest := by
          intro member
          have unquoted := (given.inside given.quote (by simp [same, member])).2
          simp [given.mark] at unquoted
        simp only [Key.render, Key.text, same]
        exact reads_or_left (reads_quoted_key given.mark absent) _

theorem reads_key (key : Key) (limit : Nat) {last rest : Text} {mark : Option Char}
    (ends : Avoids Text.isNamePart (last ++ rest)) (tight : Avoids Text.isBlank (last ++ rest))
    (tail : Reads (keyTail key.text) (Text.beforeEnd none key.render) last rest (key.text, mark)) :
    Reads (memberKey limit) none (key.render ++ last) rest (key.text, mark) := by
  obtain ⟨c, others, same, dark, _, _, star⟩ := (key_shape key).starts
  refine reads_member_key limit ((key_shape key).unmodified _ ends tight) ?_ ?_
    ((key_shape key).keyed _ ends) tail
  · rw [same]
    exact Text.avoids_cons (by simpa using star) _
  · rw [same]
    exact Text.avoids_cons dark _

theorem strip_member {held text : Text} (void : Void held)
    (starts : ∃ c rest, text = c :: rest ∧ Text.isBlank c = false ∧ c ≠ '/') :
    Text.strip (dropComments (held ++ text)) = Text.dropBlanksEnd text := by
  obtain ⟨c, rest, rfl, dark, slash⟩ := starts
  have code : startsComment (c :: rest) = false := by simp [starts_comment_cons, slash]
  rw [void, drop_comments_here dark code, Text.strip,
    Text.drop_blanks_avoids (Text.avoids_cons dark rest)]

variable {held blanks : Text}

theorem strip_value (value : ClosedText typeLiteral)
    (white : ∀ c ∈ blanks, Text.isBlank c = true) :
    Text.strip (Text.dropBlanksEnd (' ' :: (value.text ++ blanks))) = value.text := by
  have trimmed := value.trimmed
  rw [← List.cons_append, Text.drop_blanks_end_append white]
  generalize value.text = text at trimmed
  cases text with
  | nil => rfl
  | cons c rest =>
      have kept := Text.drop_blanks_end_kept (List.cons_ne_nil c rest)
        (Text.trimmed_avoids trimmed).2 [' ']
      have stripped := @Text.strip_surrounded (c :: rest) [' '] []
        (Text.each_of_all (by decide)) (by simp) trimmed
      rw [List.append_nil] at stripped
      exact kept ▸ stripped

theorem question_marks (isOptional : Bool) (rest : Text) :
    Avoids Text.isNamePart (questionMark isOptional ++ [':'] ++ rest) ∧
      Avoids Text.isBlank (questionMark isOptional ++ [':'] ++ rest) := by
  cases isOptional <;> exact ⟨Text.avoids_cons (by decide) _, Text.avoids_cons (by decide) _⟩

theorem reads_question (isOptional : Bool) (key rest : Text) (before : Option Char) :
    Reads (keyTail key) before (questionMark isOptional ++ [':']) rest (key, some ':') := by
  cases isOptional with
  | false =>
      exact reads_key_tail key (Text.avoids_cons (by decide) rest)
        (Text.avoids_cons (by decide) rest) (reads_key_mark rfl)
  | true => exact reads_key_question key (Text.avoids_cons (by decide) rest) (reads_key_mark rfl)

theorem property_named (key : Key) (isOptional : Bool) (value : ClosedText typeLiteral)
    (void : Void held) (white : ∀ c ∈ blanks, Text.isBlank c = true) :
    nameOf? (held ++ (key.render ++ (questionMark isOptional ++ renderValue value.text) ++ blanks)) =
      some (String.ofList key.text, value.text) := by
  obtain ⟨c, rest, same, dark, slash, dot, _⟩ := (key_shape key).starts
  have shape : key.render ++ (questionMark isOptional ++ renderValue value.text) ++ blanks =
      (key.render ++ questionMark isOptional) ++ ':' :: (' ' :: (value.text ++ blanks)) := by
    simp [renderValue]
  have stripped : Text.strip (dropComments (held ++
      (key.render ++ (questionMark isOptional ++ renderValue value.text) ++ blanks))) =
      (key.render ++ (questionMark isOptional ++ [':'])) ++
        Text.dropBlanksEnd (' ' :: (value.text ++ blanks)) := by
    rw [strip_member void ⟨c, _, by rw [same]; rfl, dark, slash⟩, shape,
      Text.drop_blanks_end_mark (by decide)]
    simp
  obtain ⟨ends, tight⟩ := question_marks isOptional
    (Text.dropBlanksEnd (' ' :: (value.text ++ blanks)))
  rw [name_of_key stripped ⟨c, _, by rw [same]; rfl, dot⟩ fun limit =>
    reads_key key limit ends tight (reads_question isOptional _ _ _)]
  simp [strip_value value white]

theorem method_named (name : Identifier) (tail : ClosedText typeLiteral)
    (called : tail.text.head? = some '(') (void : Void held)
    (white : ∀ c ∈ blanks, Text.isBlank c = true) :
    nameOf? (held ++ (name.text ++ tail.text ++ blanks)) =
      some (String.ofList name.text, name.text ++ tail.text) := by
  obtain ⟨c, rest, same, dark, slash, dot, _⟩ := (key_shape (.name name)).starts
  obtain ⟨parameters, behind⟩ := List.head?_eq_some_iff.mp called
  have last := (Text.trimmed_avoids tail.trimmed).2
  have nonempty : tail.text ≠ [] := by simp [behind]
  have stripped : Text.strip (dropComments (held ++ (name.text ++ tail.text ++ blanks))) =
      (name.text ++ ['(']) ++ parameters := by
    rw [strip_member void ⟨c, _, by rw [show name.text = _ from same]; rfl, dark, slash⟩,
      Text.drop_blanks_end_append white, Text.drop_blanks_end_kept nonempty last, behind]
    simp
  rw [name_of_key stripped ⟨c, _, by rw [show name.text = _ from same]; rfl, dot⟩ fun limit =>
    reads_key (.name name) limit (Text.avoids_cons (by decide) _) (Text.avoids_cons (by decide) _)
      (reads_key_tail _ (Text.avoids_cons (by decide) _) (Text.avoids_cons (by decide) _)
        (reads_key_mark rfl))]
  simp [behind, Key.text]

theorem shorthand_named (name : Identifier) (void : Void held)
    (white : ∀ c ∈ blanks, Text.isBlank c = true) :
    nameOf? (held ++ (name.text ++ blanks)) = some (String.ofList name.text, name.text) := by
  obtain ⟨c, rest, same, dark, slash, dot, _⟩ := (key_shape (.name name)).starts
  have last : Avoids Text.isBlank name.text.reverse := by
    intro d head
    have member : d ∈ name.text := List.mem_reverse.mp (List.mem_of_head? head)
    exact Text.name_part_not_blank (identifier_parts name.valid d member)
  have stripped : Text.strip (dropComments (held ++ (name.text ++ blanks))) =
      (name.text ++ []) ++ [] := by
    rw [strip_member void ⟨c, _, by rw [show name.text = _ from same]; rfl, dark, slash⟩,
      Text.drop_blanks_end_append white, Text.drop_blanks_end_avoids last]
    simp
  rw [name_of_key stripped ⟨c, _, by rw [show name.text = _ from same]; rfl, dot⟩ fun limit =>
    reads_key (.name name) limit (Text.avoids_nil _) (Text.avoids_nil _)
      (reads_key_tail _ (Text.avoids_nil _) (Text.avoids_nil _) reads_key_end)]
  simp [Key.text]

theorem member_named (member : Member typeLiteral) (void : Void held)
    (white : ∀ c ∈ blanks, Text.isBlank c = true) :
    nameOf? (held ++ (member.render ++ blanks)) = member.named? := by
  cases member with
  | property key isOptional _ value => exact property_named key isOptional value void white
  | method name tail called => exact method_named name tail called void white
  | shorthand name => exact shorthand_named name void white
  | spread source closed =>
      have stripped : Text.strip (dropComments (held ++
          ((Member.spread source closed).render ++ blanks))) =
          '.' :: '.' :: '.' :: Text.dropBlanksEnd (source ++ blanks) :=
        (strip_member void ⟨'.', _, rfl, by decide, by decide⟩).trans
          (Text.drop_blanks_end_mark (by decide) ['.', '.'] (source ++ blanks))
      exact name_of_spread stripped
  | computed source closed value =>
      have stripped : Text.strip (dropComments (held ++
          ((Member.computed source closed value).render ++ blanks))) =
          '[' :: Text.dropBlanksEnd (source ++ ']' :: renderValue value.text ++ blanks) :=
        (strip_member void ⟨'[', _, rfl, by decide, by decide⟩).trans
          (Text.drop_blanks_end_mark (by decide) [] _)
      exact name_of_keyless stripped fun limit => bracket_no_key limit _

end Members

end PatternInspector.Literal
