import PatternInspector.Literal.Group
import PatternInspector.Proofs.Literal.Trivia
import PatternInspector.Proofs.Text.Basic

/-!
Closed text, said as a grammar: trivia that ends, plain characters, and groups whose brackets match.
The scan for a closing bracket passes over closed text without touching the groups that are open,
and what it passes over before the bracket it stops at is closed. Both together make the scan a
decision of the grammar.
-/
namespace PatternInspector.Literal

section Grammar

/-- Closed text after the character `before`. Characters that are `barred` stand only inside
brackets or trivia; inside a group none is barred. Angle brackets are brackets if `angle` says so,
and then the `>` of an arrow is a plain character. -/
inductive Closed (angle : Bool) : (Char → Bool) → Char → Text → Prop
  | nil {barred : Char → Bool} {before : Char} : Closed angle barred before []
  | trivia {barred : Char → Bool} {before : Char} {token rest : Text}
      (delimited : Trivia token rest)
      (tail : Closed angle barred (Text.lastAfter before token) rest) :
      Closed angle barred before (token ++ rest)
  | plain {barred : Char → Bool} {before c : Char} {rest : Text}
      (unquoted : isQuoteMark c = false) (code : startsComment (c :: rest) = false)
      (opening : opens angle c = false) (closing : closes angle before c = false)
      (free : barred c = false) (tail : Closed angle barred c rest) :
      Closed angle barred before (c :: rest)
  | group {barred : Char → Bool} {before opener closer : Char} {inner rest : Text}
      (opening : opens angle opener = true) (pair : closerOf? opener = some closer)
      (inside : Closed angle (fun _ => false) opener inner)
      (closing : closes angle (Text.lastAfter opener inner) closer = true)
      (tail : Closed angle barred closer rest) :
      Closed angle barred before (opener :: (inner ++ closer :: rest))

inductive Group : Text → Prop
  | mk {opener closer : Char} {inner : Text} (pair : closerOf? opener = some closer)
      (inside : Closed (opener == '<') (fun _ => false) opener inner)
      (closing : closes (opener == '<') (Text.lastAfter opener inner) closer = true) :
      Group (opener :: (inner ++ [closer]))

/-- Text that cannot make a comment of a slash before it. -/
def Sealed (after : Text) : Prop := ∀ c, after.head? = some c → c ≠ '/' ∧ c ≠ '*'

end Grammar

section Brackets

theorem closer_pairs {opener closer : Char} (pair : closerOf? opener = some closer) :
    (opener = '\x7b' ∧ closer = '\x7d') ∨ (opener = '[' ∧ closer = ']') ∨
      (opener = '(' ∧ closer = ')') ∨ (opener = '<' ∧ closer = '>') := by
  unfold closerOf? at pair
  split at pair <;> simp_all [eq_comm]

theorem opens_pair {angle : Bool} {c : Char} (opening : opens angle c = true) :
    ∃ closer, closerOf? c = some closer := by
  simp only [opens, Bool.or_eq_true, Bool.and_eq_true, beq_iff_eq] at opening
  rcases opening with ((rfl | rfl) | rfl) | ⟨_, rfl⟩ <;> exact ⟨_, rfl⟩

theorem opens_narrow {wide angle : Bool} {c : Char} (narrow : angle = true → wide = true)
    (closed : opens wide c = false) : opens angle c = false := by
  cases angle <;> cases wide <;> simp_all [opens]

theorem closes_narrow {wide angle : Bool} {before c : Char} (narrow : angle = true → wide = true)
    (closed : closes wide before c = false) : closes angle before c = false := by
  cases angle <;> cases wide <;> simp_all [closes]

theorem closes_counted {wide angle : Bool} {before opener closer : Char}
    (counted : opens angle opener = true) (pair : closerOf? opener = some closer)
    (closing : closes wide before closer = true) : closes angle before closer = true := by
  rcases closer_pairs pair with ⟨rfl, rfl⟩ | ⟨rfl, rfl⟩ | ⟨rfl, rfl⟩ | ⟨rfl, rfl⟩
  · simp [closes]
  · simp [closes]
  · simp [closes]
  · cases angle with
    | false => exact absurd counted (by decide)
    | true =>
        cases wide with
        | false => exact absurd closing (by simp [closes])
        | true => exact closing

theorem opens_uncounted {wide angle : Bool} {opener closer : Char}
    (opening : opens wide opener = true) (uncounted : opens angle opener = false)
    (pair : closerOf? opener = some closer) : angle = false ∧ opener = '<' ∧ closer = '>' := by
  rcases closer_pairs pair with ⟨rfl, rfl⟩ | ⟨rfl, rfl⟩ | ⟨rfl, rfl⟩ | ⟨rfl, rfl⟩
  · simp [opens] at uncounted
  · simp [opens] at uncounted
  · simp [opens] at uncounted
  · simpa [opens] using uncounted

theorem closes_not_opens {angle : Bool} {before c : Char} (closing : closes angle before c = true) :
    opens angle c = false := by
  simp only [closes, Bool.or_eq_true, Bool.and_eq_true, beq_iff_eq] at closing
  rcases closing with ((rfl | rfl) | rfl) | ⟨⟨_, rfl⟩, _⟩ <;> simp [opens]

theorem trivia_length_mark {c : Char} (unquoted : isQuoteMark c = false) (code : c ≠ '/')
    (rest : Text) : triviaLength (c :: rest) = 0 := by
  refine (trivia_length_zero_iff c rest).mpr ⟨unquoted, ?_⟩
  simp [starts_comment_cons, code]

theorem opens_no_trivia {angle : Bool} {c : Char} (opening : opens angle c = true) (rest : Text) :
    triviaLength (c :: rest) = 0 := by
  simp only [opens, Bool.or_eq_true, Bool.and_eq_true, beq_iff_eq] at opening
  apply trivia_length_mark
  · rcases opening with ((rfl | rfl) | rfl) | ⟨_, rfl⟩ <;> rfl
  · rcases opening with ((rfl | rfl) | rfl) | ⟨_, rfl⟩ <;> decide

theorem closer_no_trivia {opener closer : Char} (pair : closerOf? opener = some closer)
    (rest : Text) : triviaLength (closer :: rest) = 0 := by
  apply trivia_length_mark
  · rcases closer_pairs pair with ⟨_, rfl⟩ | ⟨_, rfl⟩ | ⟨_, rfl⟩ | ⟨_, rfl⟩ <;> rfl
  · rcases closer_pairs pair with ⟨_, rfl⟩ | ⟨_, rfl⟩ | ⟨_, rfl⟩ | ⟨_, rfl⟩ <;> decide

theorem closer_sealed {opener closer : Char} (pair : closerOf? opener = some closer)
    (rest : Text) : Sealed (closer :: rest) := by
  rintro c ⟨⟩
  rcases closer_pairs pair with ⟨_, rfl⟩ | ⟨_, rfl⟩ | ⟨_, rfl⟩ | ⟨_, rfl⟩ <;> decide

-- A slash at the end of a text starts a comment only if what follows supplies the second mark.
theorem starts_comment_sealed {c : Char} {rest after : Text}
    (code : startsComment (c :: rest) = false) (boundary : Sealed after) :
    startsComment (c :: (rest ++ after)) = false := by
  cases rest with
  | cons d rest => simpa [starts_comment_cons] using code
  | nil =>
      cases after with
      | nil => exact code
      | cons d after =>
          obtain ⟨noSlash, noStar⟩ := boundary d rfl
          simp [starts_comment_cons, noSlash, noStar]

end Brackets

section Steps

variable {angle : Bool} {stack : List Char} {position : Nat} {before c : Char} {rest : Text}

theorem closing_skip (skipped after : Text) (position : Nat) (before : Char) :
    closingFrom angle stack position before skipped.length (skipped ++ after) =
      closingFrom angle stack (position + skipped.length) (Text.lastAfter before skipped) 0 after := by
  induction skipped generalizing position before with
  | nil => rfl
  | cons c skipped ih =>
      simp only [List.cons_append, List.length_cons, closingFrom, ih]
      rw [Text.last_after_cons, Nat.add_assoc, Nat.add_comm 1]

theorem closing_trivia {token : Text} (delimited : Trivia token rest) :
    closingFrom angle stack position before 0 (token ++ rest) =
      closingFrom angle stack (position + token.length) (Text.lastAfter before token) 0 rest := by
  have length := trivia_length_complete delimited
  obtain ⟨first, others, rfl⟩ := trivia_nonempty delimited
  simp only [List.cons_append, List.length_cons] at length
  simp only [List.cons_append, closingFrom, length, closing_skip]
  rw [Text.last_after_cons, List.length_cons, Nat.add_assoc, Nat.add_comm 1]

theorem closing_plain (code : triviaLength (c :: rest) = 0) (opening : opens angle c = false)
    (closing : closes angle before c = false) :
    closingFrom angle stack position before 0 (c :: rest) =
      closingFrom angle stack (position + 1) c 0 rest := by
  simp [closingFrom, code, opening, closing]

theorem closing_open {closer : Char} (opening : opens angle c = true)
    (pair : closerOf? c = some closer) :
    closingFrom angle stack position before 0 (c :: rest) =
      closingFrom angle (closer :: stack) (position + 1) c 0 rest := by
  simp [closingFrom, opens_no_trivia opening, opening, pair]

def resume (angle : Bool) (stack : List Char) (position : Nat) (closer : Char) (after : Text) :
    Option Nat :=
  match stack with
  | [] => some position
  | _ :: _ => closingFrom angle stack (position + 1) closer 0 after

theorem closing_close {top : Char} (code : triviaLength (c :: rest) = 0)
    (closing : closes angle before c = true) :
    closingFrom angle (top :: stack) position before 0 (c :: rest) =
      if c = top then resume angle stack position top rest else none := by
  simp only [closingFrom, code, closes_not_opens closing, closing]
  cases stack with
  | nil => simp [resume]
  | cons next stack =>
      by_cases same : c = top
      · simp [same, resume]
      · simp [same]

end Steps

section Passing

-- The brackets that the scan counts may be fewer than those that nest in the text: the members of a
-- type nest angle brackets too, while the group around them is opened by a brace.
theorem closing_passes {angle wide : Bool} {barred : Char → Bool} {before : Char} {inner : Text}
    (narrow : angle = true → wide = true) (closed : Closed wide barred before inner)
    (stack : List Char) (top : Char) (position : Nat) (after : Text) (boundary : Sealed after) :
    closingFrom angle (top :: stack) position before 0 (inner ++ after) =
      closingFrom angle (top :: stack) (position + inner.length) (Text.lastAfter before inner) 0 after := by
  induction closed generalizing stack top position after with
  | nil => rfl
  | @trivia barred before token rest delimited tail ih =>
      rw [List.append_assoc, closing_trivia (trivia_extend delimited after),
        ih stack top _ after boundary]
      rw [Text.last_after_append, List.length_append, Nat.add_assoc]
  | @plain barred before c rest unquoted code opening closing free tail ih =>
      have measured : triviaLength (c :: (rest ++ after)) = 0 :=
        (trivia_length_zero_iff c _).mpr ⟨unquoted, starts_comment_sealed code boundary⟩
      rw [List.cons_append, closing_plain measured (opens_narrow narrow opening)
        (closes_narrow narrow closing), ih stack top _ after boundary]
      rw [Text.last_after_cons, List.length_cons, Nat.add_assoc, Nat.add_comm 1]
  | @group barred before opener closer inner rest opening pair inside closing tail ihInside ihTail =>
      have boundary' := closer_sealed pair (rest ++ after)
      have shape : opener :: (inner ++ closer :: rest) ++ after =
          opener :: (inner ++ (closer :: (rest ++ after))) := by simp
      have total : position + 1 + inner.length + 1 + rest.length =
          position + (opener :: (inner ++ closer :: rest)).length := by
        simp
        omega
      rw [shape, ← total]
      simp only [Text.last_after_cons, Text.last_after_append]
      cases counted : opens angle opener with
      | true =>
          rw [closing_open counted pair, ihInside (top :: stack) closer _ _ boundary',
            closing_close (closer_no_trivia pair _) (closes_counted counted pair closing), if_pos rfl]
          exact ihTail stack top _ after boundary
      | false =>
          obtain ⟨rfl, rfl, rfl⟩ := opens_uncounted opening counted pair
          rw [closing_plain (opens_no_trivia opening _) counted rfl,
            ihInside stack top _ _ boundary',
            closing_plain (closer_no_trivia pair _) rfl rfl]
          exact ihTail stack top _ after boundary

end Passing

section Soundness

theorem closing_exhausted (angle : Bool) (stack : List Char) (position : Nat) (before : Char)
    (skip : Nat) (text : Text) (short : text.length ≤ skip) :
    closingFrom angle stack position before skip text = none := by
  induction text generalizing position before skip with
  | nil => rfl
  | cons c rest ih =>
      cases skip with
      | zero => simp at short
      | succ left => exact ih _ _ left (by simpa using short)

theorem trivia_shrink {token inner after : Text} {closer : Char} (code : closer ≠ '\n')
    (delimited : Trivia token (inner ++ closer :: after)) : Trivia token inner := by
  generalize whole : inner ++ closer :: after = text at delimited
  cases delimited with
  | quoted mark inside => exact .quoted mark inside
  | block inside => exact .block inside
  | line inside =>
      cases inner with
      | nil => exact absurd (List.cons.inj whole).1 code
      | cons c inner =>
          obtain rfl := (List.cons.inj whole).1
          exact .line inside

theorem starts_comment_shrink {c : Char} {inner after : Text}
    (code : startsComment (c :: (inner ++ after)) = false) :
    startsComment (c :: inner) = false := by
  cases inner with
  | nil => simp [starts_comment_cons]
  | cons d inner => simpa [starts_comment_cons] using code

theorem closes_not_newline {angle : Bool} {before c : Char}
    (closing : closes angle before c = true) : c ≠ '\n' := by
  rintro rfl
  simp [closes] at closing

/-- The innermost of the open groups ends at the first `top` behind closed text, and from there the
scan of the other groups gives `found`. -/
def ClosedBy (angle : Bool) (top : Char) (stack : List Char) (position : Nat) (before : Char)
    (text : Text) (found : Nat) : Prop :=
  ∃ inner after, text = inner ++ top :: after ∧
    Closed angle (fun _ => false) before inner ∧
    closes angle (Text.lastAfter before inner) top = true ∧
    resume angle stack (position + inner.length) top after = some found

section Items

variable {angle : Bool} {top : Char} {stack : List Char} {position found : Nat} {before : Char}

theorem closed_by_trivia {token rest : Text} (delimited : Trivia token rest)
    (tail : ClosedBy angle top stack (position + token.length) (Text.lastAfter before token) rest
      found) :
    ClosedBy angle top stack position before (token ++ rest) found := by
  obtain ⟨inner, after, rfl, closed, closing, resumed⟩ := tail
  have delimited' := trivia_shrink (closes_not_newline closing) delimited
  refine ⟨token ++ inner, after, by simp, .trivia delimited' closed, by simpa using closing, ?_⟩
  simpa [Nat.add_assoc] using resumed

theorem closed_by_plain {c : Char} {rest : Text} (measured : triviaLength (c :: rest) = 0)
    (opening : opens angle c = false) (closing : closes angle before c = false)
    (tail : ClosedBy angle top stack (position + 1) c rest found) :
    ClosedBy angle top stack position before (c :: rest) found := by
  obtain ⟨unquoted, code⟩ := (trivia_length_zero_iff c rest).mp measured
  obtain ⟨inner, after, rfl, closed, closing', resumed⟩ := tail
  refine ⟨c :: inner, after, rfl, ?_, by simpa using closing', ?_⟩
  · exact .plain unquoted (starts_comment_shrink code) opening closing rfl closed
  · rw [← resumed, List.length_cons, Nat.add_assoc, Nat.add_comm 1]

theorem closed_by_group {opener closer : Char} {inner rest : Text}
    (opening : opens angle opener = true) (pair : closerOf? opener = some closer)
    (inside : Closed angle (fun _ => false) opener inner)
    (closing : closes angle (Text.lastAfter opener inner) closer = true)
    (tail : ClosedBy angle top stack (position + 1 + inner.length + 1) closer rest found) :
    ClosedBy angle top stack position before (opener :: (inner ++ closer :: rest)) found := by
  obtain ⟨inner', after, rfl, closed, closing', resumed⟩ := tail
  refine ⟨opener :: (inner ++ closer :: inner'), after, by simp,
    .group opening pair inside closing closed, by simpa using closing', ?_⟩
  have total : position + (opener :: (inner ++ closer :: inner')).length =
      position + 1 + inner.length + 1 + inner'.length := by
    simp
    omega
  rw [total, resumed]

end Items

-- By induction on the length: behind a nested group the scan goes on with the same open groups.
theorem closing_sound {angle : Bool} (bound : Nat) (top : Char) (stack : List Char)
    (position : Nat) (before : Char) (text : Text) (found : Nat) (short : text.length ≤ bound)
    (scanned : closingFrom angle (top :: stack) position before 0 text = some found) :
    ClosedBy angle top stack position before text found := by
  induction bound generalizing top stack position before text found with
  | zero =>
      have empty : text = [] := List.length_eq_zero_iff.mp (Nat.le_zero.mp short)
      simp [empty, closingFrom] at scanned
  | succ bound ih =>
      cases text with
      | nil => simp [closingFrom] at scanned
      | cons c rest =>
          have shorter : rest.length ≤ bound := by simpa using short
          cases measured : triviaLength (c :: rest) with
          | succ length =>
              rcases trivia_length_sound measured with ⟨token, after, split, size, delimited⟩ | all
              · have less : after.length ≤ bound := by
                  have sizes := congrArg List.length split
                  simp only [List.length_cons, List.length_append] at sizes
                  omega
                rw [split, closing_trivia delimited] at scanned
                rw [split]
                exact closed_by_trivia delimited (ih top stack _ _ after found less scanned)
              · have none := closing_exhausted angle (top :: stack) (position + 1) c length rest
                  (by simpa using all)
                simp [closingFrom, measured, none] at scanned
          | zero =>
              cases opening : opens angle c with
              | true =>
                  obtain ⟨closer, pair⟩ := opens_pair opening
                  rw [closing_open opening pair] at scanned
                  obtain ⟨inner, after, rfl, inside, closing, resumed⟩ :=
                    ih closer (top :: stack) _ _ rest found shorter scanned
                  have less : after.length ≤ bound := by
                    simp only [List.length_append, List.length_cons] at shorter
                    omega
                  exact closed_by_group opening pair inside closing
                    (ih top stack _ _ after found less resumed)
              | false =>
                  cases closing : closes angle before c with
                  | true =>
                      rw [closing_close measured closing] at scanned
                      split at scanned
                      next same =>
                        subst same
                        exact ⟨[], rest, rfl, .nil, closing, scanned⟩
                      next => simp at scanned
                  | false =>
                      rw [closing_plain measured opening closing] at scanned
                      exact closed_by_plain measured opening closing
                        (ih top stack _ _ rest found shorter scanned)

end Soundness

section Exactness

def GroupAt (text : Text) (start stop : Nat) : Prop :=
  stop < text.length ∧ Group (Text.slice text start (stop + 1))

theorem group_at_iff {text : Text} {start : Nat} {opener : Char} {rest : Text}
    (behind : text.drop start = opener :: rest) (stop : Nat) :
    GroupAt text start stop ↔
      ∃ inner closer after, rest = inner ++ closer :: after ∧ stop = start + 1 + inner.length ∧
        closerOf? opener = some closer ∧
        Closed (opener == '<') (fun _ => false) opener inner ∧
        closes (opener == '<') (Text.lastAfter opener inner) closer = true := by
  have total : text.length = start + (rest.length + 1) := by
    have sizes := congrArg List.length behind
    simp only [List.length_drop, List.length_cons] at sizes
    omega
  unfold GroupAt Text.slice
  rw [behind]
  constructor
  · rintro ⟨inText, group⟩
    generalize whole : (opener :: rest).take (stop + 1 - start) = taken at group
    cases group with
    | @mk opener' closer inner pair inside closing =>
        have split := List.take_append_drop (stop + 1 - start) (opener :: rest)
        generalize (opener :: rest).drop (stop + 1 - start) = after at split
        rw [whole] at split
        obtain ⟨rfl, rfl⟩ : opener' = opener ∧ inner ++ closer :: after = rest := by
          simpa using split
        have size := congrArg List.length whole
        simp only [List.length_take, List.length_cons, List.length_append, List.length_nil]
          at size total
        exact ⟨inner, closer, after, rfl, by omega, pair, inside, closing⟩
  · rintro ⟨inner, closer, after, rfl, rfl, pair, inside, closing⟩
    have size : start + 1 + inner.length + 1 - start = (opener :: (inner ++ [closer])).length := by
      simp
      omega
    have shape : opener :: (inner ++ closer :: after) = opener :: (inner ++ [closer]) ++ after := by
      simp
    simp only [List.length_append, List.length_cons] at total
    refine ⟨by omega, ?_⟩
    rw [size, shape, List.take_left]
    exact .mk pair inside closing

theorem find_closing_scan {text : Text} {index : Nat} {opener closer : Char} {rest : Text}
    (behind : text.drop index = opener :: rest) (pair : closerOf? opener = some closer) :
    findClosing text index =
      .ok (closingFrom (opener == '<') [closer] (index + 1) opener 0 rest) := by
  simp [findClosing, behind, pair]

theorem closing_iff_group {text : Text} {index : Nat} {opener closer : Char} {rest : Text}
    (behind : text.drop index = opener :: rest) (pair : closerOf? opener = some closer)
    (stop : Nat) :
    closingFrom (opener == '<') [closer] (index + 1) opener 0 rest = some stop ↔
      GroupAt text index stop := by
  rw [group_at_iff behind]
  constructor
  · intro scanned
    obtain ⟨inner, after, split, inside, closing, resumed⟩ :=
      closing_sound rest.length closer [] _ _ rest stop (Nat.le_refl _) scanned
    exact ⟨inner, closer, after, split, (Option.some.inj resumed).symm, pair, inside, closing⟩
  · rintro ⟨inner, closer', after, rfl, rfl, pair', inside, closing⟩
    obtain rfl : closer = closer' := Option.some.inj (pair.symm.trans pair')
    rw [closing_passes id inside [] closer _ _ (closer_sealed pair after),
      closing_close (closer_no_trivia pair after) closing, if_pos rfl]
    rfl

theorem opener_pair {opener : Char} (opening : opener ∈ ['\x7b', '[', '(', '<']) :
    ∃ closer, closerOf? opener = some closer := by
  simp only [List.mem_cons, List.not_mem_nil, or_false] at opening
  rcases opening with rfl | rfl | rfl | rfl <;> exact ⟨_, rfl⟩

theorem skip_trivia_token {text token after : Text} {start : Nat}
    (behind : text.drop start = token ++ after) (delimited : Trivia token after) :
    skipTrivia text start = .ok (start + token.length) := by
  obtain ⟨first, others, rfl⟩ := trivia_nonempty delimited
  have inside : start < text.length := by
    by_contra outside
    rw [List.drop_eq_nil_of_le (by omega)] at behind
    simp at behind
  rw [skipTrivia, if_pos inside, behind, trivia_length_complete delimited]

-- The third part follows from the first: a scan has one result.
theorem find_closing_exact (text : Text) (index : Nat) (opener : Char)
    (present : text[index]? = some opener) (opening : opener ∈ ['\x7b', '[', '(', '<']) :
    (∀ stop, findClosing text index = .ok (some stop) ↔ GroupAt text index stop) ∧
    (findClosing text index = .ok none ↔ ∀ stop, ¬ GroupAt text index stop) ∧
    (∀ stop other, GroupAt text index stop → GroupAt text index other → stop = other) ∧
    (∀ start token after, text.drop start = token ++ after → Trivia token after →
      skipTrivia text start = .ok (start + token.length)) := by
  obtain ⟨closer, pair⟩ := opener_pair opening
  obtain ⟨inside, rfl⟩ := List.getElem?_eq_some_iff.mp present
  have behind := List.drop_eq_getElem_cons inside
  have scanned := closing_iff_group behind pair
  rw [find_closing_scan behind pair]
  refine ⟨fun stop => ?_, ?_, fun stop other one two => ?_, fun start token after split => ?_⟩
  · rw [← scanned stop, Except.ok.injEq]
  · simp only [← scanned, Except.ok.injEq]
    exact Option.eq_none_iff_forall_ne_some
  · exact Option.some.inj (((scanned stop).mpr one).symm.trans ((scanned other).mpr two))
  · exact skip_trivia_token split

/-- A type argument that holds a string with a brace, an arrow and a comment with a closer. -/
theorem find_closing_arrow_argument :
    let text := "<\x7b a: '\x7d' \x7d => /* > */ b>()".toList
    text[0]? = some '<' ∧ '<' ∈ ['\x7b', '[', '(', '<'] ∧ GroupAt text 0 24 ∧
      ∀ stop, GroupAt text 0 stop → stop = 24 := by
  intro text
  have present : text[0]? = some '<' := rfl
  have opening : '<' ∈ ['\x7b', '[', '(', '<'] := by decide
  obtain ⟨found, _, unique, _⟩ := find_closing_exact text 0 '<' present opening
  have group : GroupAt text 0 24 := (found 24).mp rfl
  exact ⟨present, opening, group, fun stop other => unique stop 24 other group⟩

end Exactness

end PatternInspector.Literal
