import Mathlib.Data.List.Infix
import Mathlib.Data.List.TakeWhile
import PatternInspector.Literal.Trivia

/-!
The forms of trivia, said without the scanner. A token of trivia is judged together with the text
that follows it, because a line comment ends at a newline that does not belong to it. The scanner
measures exactly these tokens; where the text holds no end for what it starts with, it measures
everything that is left.
-/
namespace PatternInspector.Literal

section Forms

/-- Text between two quotes: a backslash hides the character after it. -/
inductive QuotedBody (quote : Char) : Text → Prop
  | nil : QuotedBody quote []
  | escaped {c : Char} {rest : Text} (tail : QuotedBody quote rest) :
      QuotedBody quote ('\\' :: c :: rest)
  | plain {c : Char} {rest : Text} (unescaped : c ≠ '\\') (inside : c ≠ quote)
      (tail : QuotedBody quote rest) : QuotedBody quote (c :: rest)

def BlockBody (body : Text) : Prop := ¬ ['*', '/'] <:+: body

instance (body : Text) : Decidable (BlockBody body) := inferInstanceAs (Decidable (¬ _))

inductive Trivia : Text → Text → Prop
  | quoted {quote : Char} {body after : Text} (mark : isQuoteMark quote = true)
      (inside : QuotedBody quote body) : Trivia (quote :: (body ++ [quote])) after
  | line {body after : Text} (inside : '\n' ∉ body) :
      Trivia ('/' :: '/' :: body) ('\n' :: after)
  | block {body after : Text} (inside : BlockBody body) :
      Trivia ('/' :: '*' :: (body ++ ['*', '/'])) after

theorem trivia_nonempty {token after : Text} (trivia : Trivia token after) :
    ∃ first others, token = first :: others := by
  cases trivia with
  | quoted | line | block => exact ⟨_, _, rfl⟩

theorem trivia_extend {token after : Text} (trivia : Trivia token after) (more : Text) :
    Trivia token (after ++ more) := by
  cases trivia with
  | quoted mark inside => exact .quoted mark inside
  | line inside => exact .line inside
  | block inside => exact .block inside

end Forms

section Lengths

theorem quote_mark_not_backslash {quote : Char} (mark : isQuoteMark quote = true) :
    quote ≠ '\\' := by
  rintro rfl
  exact absurd mark (by decide)

theorem quoted_length_complete {quote : Char} {body : Text} (unescaped : quote ≠ '\\')
    (inside : QuotedBody quote body) (after : Text) :
    quotedLength quote (body ++ quote :: after) = body.length + 1 := by
  induction inside with
  | nil => cases after <;> simp [quotedLength, unescaped]
  | escaped _ ih => simp [quotedLength, ih]
  | @plain c rest unescaped' different _ ih =>
      cases rest with
      | nil =>
          simp only [List.nil_append] at ih
          simp [quotedLength, unescaped', different, ih]
      | cons d rest =>
          simp only [List.cons_append] at ih
          simp [quotedLength, unescaped', different, ih]

theorem quoted_length_sound (quote : Char) (text : Text) :
    (∃ body after, text = body ++ quote :: after ∧ QuotedBody quote body ∧
      quotedLength quote text = body.length + 1) ∨
    quotedLength quote text = text.length := by
  fun_induction quotedLength quote text with
  | case1 => exact Or.inr rfl
  | case2 => exact Or.inr rfl
  | case3 c d rest escape ih =>
      have backslash : c = '\\' := by simpa using escape
      subst backslash
      rcases ih with ⟨body, after, rfl, inside, length⟩ | length
      · exact Or.inl ⟨'\\' :: d :: body, after, rfl, .escaped inside, by simp [length]⟩
      · exact Or.inr (by simp [length])
  | case4 c d rest _ closing =>
      have same : c = quote := by simpa using closing
      exact Or.inl ⟨[], d :: rest, by simp [same], .nil, rfl⟩
  | case5 c d rest unescaped endless ih =>
      rcases ih with ⟨body, after, split, inside, length⟩ | length
      · refine Or.inl ⟨c :: body, after, by simp [split], ?_, by simp [length]⟩
        exact .plain (by simpa using unescaped) (by simpa using endless) inside
      · exact Or.inr (by simp [length])

theorem block_body_cons {c : Char} {body : Text} :
    BlockBody (c :: body) ↔ BlockBody body ∧ ¬ (c = '*' ∧ body.head? = some '/') := by
  have starts : ['*', '/'] <+: c :: body ↔ c = '*' ∧ body.head? = some '/' := by
    cases body with
    | nil => simp
    | cons d rest => simp [List.cons_prefix_cons, eq_comm]
  unfold BlockBody
  rw [List.infix_cons_iff, starts]
  tauto

theorem block_length_complete {body : Text} (inside : BlockBody body) (after : Text) :
    blockLength (body ++ '*' :: '/' :: after) = body.length + 2 := by
  induction body with
  | nil => simp [blockLength]
  | cons c body ih =>
      obtain ⟨tail, first⟩ := block_body_cons.mp inside
      cases body with
      | nil => simp [blockLength]
      | cons d rest =>
          have endless : ¬ (c = '*' ∧ d = '/') := by simpa using first
          have length := ih tail
          simp only [List.cons_append] at length
          simp [blockLength, endless, length]

theorem block_length_sound (text : Text) :
    (∃ body after, text = body ++ '*' :: '/' :: after ∧ BlockBody body ∧
      blockLength text = body.length + 2) ∨
    blockLength text = text.length := by
  fun_induction blockLength text with
  | case1 => exact Or.inr rfl
  | case2 => exact Or.inr rfl
  | case3 c d rest closing =>
      obtain ⟨rfl, rfl⟩ : c = '*' ∧ d = '/' := by simpa using closing
      exact Or.inl ⟨[], rest, rfl, by decide, rfl⟩
  | case4 c d rest endless ih =>
      rcases ih with ⟨body, after, split, inside, length⟩ | length
      · refine Or.inl ⟨c :: body, after, by simp [split], ?_, by simp [length]⟩
        refine block_body_cons.mpr ⟨inside, ?_⟩
        rintro ⟨rfl, head⟩
        -- The second character of the text is the first one of the body, or the star of its end.
        cases body with
        | nil =>
            have : d = '*' := (List.cons.inj split).1
            simp_all
        | cons e body =>
            have : d = e := (List.cons.inj split).1
            simp_all
      · exact Or.inr (by simp [length])

theorem line_length_complete (body after : Text) (inside : '\n' ∉ body) :
    lineLength (body ++ '\n' :: after) = body.length := by
  have kept : ∀ c ∈ body, (c != '\n') = true := by
    intro c member
    simpa using fun same : c = '\n' => inside (same ▸ member)
  simp [lineLength, List.takeWhile_append_of_pos kept]

theorem line_length_open {text : Text} (endless : '\n' ∉ text) : lineLength text = text.length := by
  have kept : ∀ c ∈ text, (c != '\n') = true := by
    intro c member
    simpa using fun same : c = '\n' => endless (same ▸ member)
  rw [lineLength, List.takeWhile_eq_self_iff.mpr kept]

theorem line_length_sound (text : Text) :
    (∃ body after, text = body ++ '\n' :: after ∧ '\n' ∉ body ∧
      lineLength text = body.length) ∨
    lineLength text = text.length := by
  by_cases ends : '\n' ∈ text
  · obtain ⟨body, after, rfl, inside⟩ := List.eq_append_cons_of_mem ends
    exact Or.inl ⟨body, after, rfl, inside, line_length_complete body after inside⟩
  · exact Or.inr (line_length_open ends)

end Lengths

section Measure

theorem trivia_length_complete {token after : Text} (trivia : Trivia token after) :
    triviaLength (token ++ after) = token.length := by
  cases trivia with
  | @quoted quote body after mark inside =>
      have length := quoted_length_complete (quote_mark_not_backslash mark) inside after
      simp [triviaLength, mark, length]
  | @line body after inside =>
      have length := line_length_complete ('/' :: '/' :: body) after (by simp [inside])
      simp only [List.cons_append] at length
      simp [triviaLength, isQuoteMark, startsLineComment, length]
  | @block body after inside =>
      have length := block_length_complete inside after
      simp [triviaLength, isQuoteMark, startsLineComment, startsBlockComment, length]

theorem starts_line_comment_iff (text : Text) :
    startsLineComment text = true ↔ ∃ rest, text = '/' :: '/' :: rest := by
  rw [startsLineComment, List.isPrefixOf_iff_prefix]
  exact ⟨fun ⟨rest, same⟩ => ⟨rest, same.symm⟩, fun ⟨rest, same⟩ => ⟨rest, same.symm⟩⟩

theorem starts_block_comment_iff (text : Text) :
    startsBlockComment text = true ↔ ∃ rest, text = '/' :: '*' :: rest := by
  rw [startsBlockComment, List.isPrefixOf_iff_prefix]
  exact ⟨fun ⟨rest, same⟩ => ⟨rest, same.symm⟩, fun ⟨rest, same⟩ => ⟨rest, same.symm⟩⟩

theorem starts_comment_cons (c : Char) (rest : Text) :
    startsComment (c :: rest) = (c == '/' && rest.head?.any fun d => d == '/' || d == '*') := by
  cases rest with
  | nil => simp [startsComment, startsLineComment, startsBlockComment, List.isPrefixOf]
  | cons d rest =>
      simp [startsComment, startsLineComment, startsBlockComment, List.isPrefixOf,
        ← Bool.and_or_distrib_left, Bool.beq_comm]

/-- A length that covers one token of trivia, or all of a text that lacks the token's end. -/
def Measured (text : Text) (length : Nat) : Prop :=
  (∃ token after, text = token ++ after ∧ token.length = length ∧ Trivia token after) ∨
    text.length ≤ length

theorem quoted_measured {quote : Char} (mark : isQuoteMark quote = true) (rest : Text) :
    Measured (quote :: rest) (quotedLength quote rest + 1) := by
  rcases quoted_length_sound quote rest with ⟨body, after, rfl, inside, closed⟩ | endless
  · exact Or.inl ⟨quote :: (body ++ [quote]), after, by simp, by simp [closed], .quoted mark inside⟩
  · exact Or.inr (by simp [endless])

theorem line_measured (rest : Text) :
    Measured ('/' :: '/' :: rest) (lineLength ('/' :: '/' :: rest)) := by
  rcases line_length_sound ('/' :: '/' :: rest) with ⟨body, after, split, inside, closed⟩ | endless
  · match body, split with
    | a :: b :: body, split =>
        obtain ⟨rfl, rfl, rfl⟩ : '/' = a ∧ '/' = b ∧ rest = body ++ '\n' :: after := by
          simpa using split
        refine Or.inl ⟨'/' :: '/' :: body, '\n' :: after, by simp, closed.symm, .line ?_⟩
        exact fun member => inside (by simp [member])
    | [_], split => simp at split
    | [], split => simp at split
  · exact Or.inr endless.ge

theorem block_measured (rest : Text) :
    Measured ('/' :: '*' :: rest) (blockLength rest + 2) := by
  rcases block_length_sound rest with ⟨body, after, rfl, inside, closed⟩ | endless
  · exact Or.inl ⟨'/' :: '*' :: (body ++ ['*', '/']), after, by simp, by simp [closed], .block inside⟩
  · exact Or.inr (by simp [endless])

theorem trivia_length_sound {text : Text} {length : Nat}
    (measured : triviaLength text = length + 1) : Measured text (length + 1) := by
  rw [← measured]
  cases text with
  | nil => exact Or.inr (Nat.zero_le _)
  | cons c rest =>
      simp only [triviaLength] at measured ⊢
      split
      next mark => exact quoted_measured mark rest
      next =>
        split
        next starts =>
          obtain ⟨tail, same⟩ := (starts_line_comment_iff _).mp starts
          exact same ▸ line_measured tail
        next =>
          split
          next starts =>
            obtain ⟨tail, same⟩ := (starts_block_comment_iff _).mp starts
            obtain ⟨rfl, rfl⟩ : c = '/' ∧ rest = '*' :: tail := by simpa using same
            exact block_measured tail
          next => simp_all

theorem trivia_length_zero_iff (c : Char) (rest : Text) :
    triviaLength (c :: rest) = 0 ↔
      isQuoteMark c = false ∧ startsComment (c :: rest) = false := by
  constructor
  · intro none
    simp only [triviaLength] at none
    split at none
    next => simp at none
    next unquoted =>
      split at none
      next starts =>
        obtain ⟨tail, same⟩ := (starts_line_comment_iff _).mp starts
        simp [same, lineLength] at none
      next notLine =>
        split at none
        next => simp at none
        next notBlock => simp_all [startsComment]
  · rintro ⟨unquoted, code⟩
    simp only [startsComment, Bool.or_eq_false_iff] at code
    simp [triviaLength, unquoted, code.1, code.2]

end Measure

end PatternInspector.Literal
