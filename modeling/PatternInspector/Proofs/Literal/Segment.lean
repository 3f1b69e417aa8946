import PatternInspector.Literal.Entry
import PatternInspector.Proofs.Literal.Group

/-!
How closed text is put together, and what the cut into segments does with it: closed text without a
separator outside its brackets goes into the segment at hand as a whole.
-/
namespace PatternInspector.Literal

section Assembly

variable {angle : Bool} {barred : Char → Bool} {before : Char}

-- Nothing but the `>` of an arrow looks at the character before it.
theorem closed_before {text : Text} (closed : Closed angle barred ' ' text) (before : Char) :
    Closed angle barred before text := by
  cases closed with
  | nil => exact .nil
  | @trivia barred _ token rest delimited tail =>
      obtain ⟨first, others, rfl⟩ := trivia_nonempty delimited
      exact .trivia delimited tail
  | plain unquoted code opening closing free tail =>
      refine .plain unquoted code opening ?_ free tail
      cases angle <;> simp_all [closes]
  | group opening pair inside closing tail => exact .group opening pair inside closing tail

theorem closed_free {text : Text} (closed : Closed angle barred before text) :
    Closed angle (fun _ => false) before text := by
  induction closed with
  | nil => exact .nil
  | trivia delimited _ ih => exact .trivia delimited ih
  | plain unquoted code opening closing _ _ ih => exact .plain unquoted code opening closing rfl ih
  | group opening pair inside closing _ _ ih => exact .group opening pair inside closing ih

theorem closed_append {left right : Text} (first : Closed angle barred before left)
    (second : Closed angle barred (Text.lastAfter before left) right) (boundary : Sealed right) :
    Closed angle barred before (left ++ right) := by
  induction first with
  | nil => exact second
  | @trivia barred before token rest delimited tail ih =>
      rw [List.append_assoc]
      refine .trivia (trivia_extend delimited right) (ih ?_)
      simpa using second
  | plain unquoted code opening closing free tail ih =>
      exact .plain unquoted (starts_comment_sealed code boundary) opening closing free (ih second)
  | @group barred before opener closer inner rest opening pair inside closing tail _ ih =>
      have split : opener :: (inner ++ closer :: rest) ++ right =
          opener :: (inner ++ closer :: (rest ++ right)) := by simp
      rw [split]
      refine .group opening pair inside closing (ih ?_)
      simpa using second

def scanMarks : Text := ['\'', '"', '\x60', '/', '\x7b', '[', '(', '<', '\x7d', ']', ')', '>']

theorem class_not_mark {accepts : Char → Bool} (outside : ∀ mark ∈ scanMarks, accepts mark = false)
    {c : Char} (accepted : accepts c = true) : c ∉ scanMarks :=
  fun member => Text.ne_of_class accepted (outside c member) rfl

theorem closed_mark {c : Char} {rest : Text} (ordinary : c ∉ scanMarks) (free : barred c = false)
    (tail : Closed angle barred c rest) : Closed angle barred before (c :: rest) := by
  simp only [scanMarks, List.mem_cons, List.not_mem_nil, or_false, not_or] at ordinary
  refine .plain ?_ ?_ ?_ ?_ free tail
  · simp [isQuoteMark, ordinary]
  · simp [starts_comment_cons, ordinary]
  · simp [opens, ordinary]
  · simp [closes, ordinary]

theorem closed_text {text rest : Text} (ordinary : ∀ c ∈ text, c ∉ scanMarks)
    (free : ∀ c ∈ text, barred c = false)
    (tail : Closed angle barred (Text.lastAfter before text) rest) :
    Closed angle barred before (text ++ rest) := by
  induction text generalizing before with
  | nil => exact tail
  | cons c text ih =>
      refine closed_mark (ordinary c (by simp)) (free c (by simp)) (ih ?_ ?_ tail)
      · exact fun d member => ordinary d (by simp [member])
      · exact fun d member => free d (by simp [member])

end Assembly

section Cutting

variable {typeLiteral : Bool} {depth : Int} {before c : Char} {rest : Text}

def pushAll (text : Text) (segments : List Text) : List Text := text.foldr pushFirst segments

@[simp] theorem push_all_nil (segments : List Text) : pushAll [] segments = segments := rfl

theorem push_all_append (left right : Text) (segments : List Text) :
    pushAll (left ++ right) segments = pushAll left (pushAll right segments) :=
  List.foldr_append

theorem push_all_cons (text segment : Text) (others : List Text) :
    pushAll text (segment :: others) = (text ++ segment) :: others := by
  induction text with
  | nil => rfl
  | cons c text ih =>
      change pushFirst c (pushAll text (segment :: others)) = _
      rw [ih]
      rfl

theorem segments_skip (skipped after : Text) (before : Char) :
    segmentsFrom typeLiteral depth before skipped.length (skipped ++ after) =
      pushAll skipped
        (segmentsFrom typeLiteral depth (Text.lastAfter before skipped) 0 after) := by
  induction skipped generalizing before with
  | nil => rfl
  | cons c skipped ih =>
      simp only [List.cons_append, List.length_cons, segmentsFrom, ih]
      rfl

theorem segments_trivia {token : Text} (delimited : Trivia token rest) :
    segmentsFrom typeLiteral depth before 0 (token ++ rest) =
      pushAll token (segmentsFrom typeLiteral depth (Text.lastAfter before token) 0 rest) := by
  have length := trivia_length_complete delimited
  obtain ⟨first, others, rfl⟩ := trivia_nonempty delimited
  simp only [List.cons_append, List.length_cons] at length
  simp only [List.cons_append, segmentsFrom, length, segments_skip]
  rfl

theorem segments_separator (separates : isSeparator typeLiteral c = true) :
    segmentsFrom typeLiteral 0 before 0 (c :: rest) = [] :: segmentsFrom typeLiteral 0 c 0 rest := by
  have code : triviaLength (c :: rest) = 0 := by
    simp only [isSeparator, Bool.or_eq_true, Bool.and_eq_true, beq_iff_eq] at separates
    apply trivia_length_mark
    · rcases separates with rfl | ⟨_, rfl | rfl⟩ <;> rfl
    · rcases separates with rfl | ⟨_, rfl | rfl⟩ <;> decide
  simp [segmentsFrom, code, separates]

theorem segments_plain (code : triviaLength (c :: rest) = 0)
    (kept : depth = 0 → isSeparator typeLiteral c = false) (opening : opens typeLiteral c = false)
    (closing : closes typeLiteral before c = false) :
    segmentsFrom typeLiteral depth before 0 (c :: rest) =
      pushAll [c] (segmentsFrom typeLiteral depth c 0 rest) := by
  have inside : (depth == 0 && isSeparator typeLiteral c) = false := by
    by_cases outside : depth = 0
    · simp [kept outside]
    · simp [outside]
  simp [segmentsFrom, code, inside, opening, closing, pushAll]

theorem bracket_not_separator (opening : opens typeLiteral c = true) :
    isSeparator typeLiteral c = false := by
  simp only [opens, Bool.or_eq_true, Bool.and_eq_true, beq_iff_eq] at opening
  rcases opening with ((rfl | rfl) | rfl) | ⟨_, rfl⟩ <;> simp [isSeparator]

theorem segments_open (opening : opens typeLiteral c = true) :
    segmentsFrom typeLiteral depth before 0 (c :: rest) =
      pushAll [c] (segmentsFrom typeLiteral (depth + 1) c 0 rest) := by
  simp [segmentsFrom, opens_no_trivia opening, bracket_not_separator opening, opening, pushAll]

-- Behind an opener the depth is positive, so no character separates before the closer.
theorem segments_close {opener : Char} (pair : closerOf? opener = some c) (nested : depth ≠ 0)
    (closing : closes typeLiteral before c = true) :
    segmentsFrom typeLiteral depth before 0 (c :: rest) =
      pushAll [c] (segmentsFrom typeLiteral (depth - 1) c 0 rest) := by
  simp [segmentsFrom, closer_no_trivia pair, nested, closes_not_opens closing, closing, pushAll]

theorem segments_passes {barred : Char → Bool} {inner : Text}
    (closed : Closed typeLiteral barred before inner) (nonneg : 0 ≤ depth)
    (kept : depth = 0 → ∀ c, isSeparator typeLiteral c = true → barred c = true)
    (after : Text) (boundary : Sealed after) :
    segmentsFrom typeLiteral depth before 0 (inner ++ after) =
      pushAll inner
        (segmentsFrom typeLiteral depth (Text.lastAfter before inner) 0 after) := by
  induction closed generalizing depth after with
  | nil => rfl
  | trivia delimited tail ih =>
      rw [List.append_assoc, segments_trivia (trivia_extend delimited after),
        ih nonneg kept after boundary, push_all_append, Text.last_after_append]
  | @plain barred before c rest unquoted code opening closing free tail ih =>
      have measured : triviaLength (c :: (rest ++ after)) = 0 :=
        (trivia_length_zero_iff c _).mpr ⟨unquoted, starts_comment_sealed code boundary⟩
      have kept' : depth = 0 → isSeparator typeLiteral c = false := by
        intro outside
        by_contra separates
        have := kept outside c (by simpa using separates)
        simp [free] at this
      rw [List.cons_append, segments_plain measured kept' opening closing,
        ih nonneg kept after boundary, ← push_all_append]
      rfl
  | @group barred before opener closer inner rest opening pair inside closing tail ihInside ihTail =>
      have shape : opener :: (inner ++ closer :: rest) ++ after =
          opener :: (inner ++ (closer :: (rest ++ after))) := by simp
      have deeper : depth + 1 ≠ 0 := by omega
      rw [shape, segments_open opening,
        ihInside (by omega) (fun outside => absurd outside deeper) _ (closer_sealed pair _),
        segments_close pair deeper closing, Int.add_sub_cancel,
        ihTail nonneg kept after boundary]
      simp only [← push_all_append, Text.last_after_cons, Text.last_after_append]
      simp

end Cutting

end PatternInspector.Literal
