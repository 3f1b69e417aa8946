import PatternInspector.Proofs.Literal.Segment
import PatternInspector.Proofs.Literal.Turn

/-!
Groups inside groups. A group is found again wherever its text stands. A scan that finds the end of a
group has passed the end of every group that it met inside, so groups do not overlap, and the braces
inside a type argument are a group in their own right.
-/
namespace PatternInspector.Literal

section Rescanning

variable {text inner after : Text} {index stop : Nat} {opener closer : Char}

-- The scan may count fewer brackets than nest in the text.
theorem closing_ends {angle wide : Bool} {barred : Char → Bool} {before : Char}
    (narrow : angle = true → wide = true) (closed : Closed wide barred before inner)
    (pair : closerOf? opener = some closer)
    (ended : closes angle (Text.lastAfter before inner) closer = true) (position : Nat) :
    closingFrom angle [closer] position before 0 (inner ++ closer :: after) =
      some (position + inner.length) := by
  rw [closing_passes narrow closed [] closer _ _ (closer_sealed pair after),
    closing_close (closer_no_trivia pair after) ended, if_pos rfl]
  rfl

theorem find_closing_behind {wide : Bool} {barred : Char → Bool}
    (behind : text.drop index = opener :: (inner ++ closer :: after))
    (pair : closerOf? opener = some closer) (narrow : (opener == '<') = true → wide = true)
    (inside : Closed wide barred opener inner)
    (closing : closes wide (Text.lastAfter opener inner) closer = true) :
    findClosing text index = .ok (some (index + 1 + inner.length)) := by
  have counted : opens (opener == '<') opener = true := by
    rcases closer_pairs pair with ⟨rfl, -⟩ | ⟨rfl, -⟩ | ⟨rfl, -⟩ | ⟨rfl, -⟩ <;> rfl
  have ended := closes_counted counted pair closing
  rw [find_closing_scan behind pair, closing_ends narrow inside pair ended]

theorem opener_of_found {result : Option Nat} (found : findClosing text index = .ok result) :
    ∃ opener closer, text[index]? = some opener ∧ closerOf? opener = some closer := by
  unfold findClosing at found
  cases behind : text.drop index with
  | nil =>
      rw [behind] at found
      cases found
  | cons opener rest =>
      rw [behind] at found
      cases pair : closerOf? opener with
      | none =>
          simp only [pair] at found
          cases found
      | some closer => exact ⟨opener, closer, present_behind behind, pair⟩

theorem group_of_found (found : findClosing text index = .ok (some stop))
    (present : text[index]? = some opener) :
    ∃ inner closer after, text.drop index = opener :: (inner ++ closer :: after) ∧
      stop = index + 1 + inner.length ∧ closerOf? opener = some closer ∧
      Closed (opener == '<') (fun _ => false) opener inner ∧
      closes (opener == '<') (Text.lastAfter opener inner) closer = true := by
  obtain ⟨opener', closer, present', pair⟩ := opener_of_found found
  obtain rfl : opener' = opener := Option.some.inj (present'.symm.trans present)
  obtain ⟨inside, rfl⟩ := List.getElem?_eq_some_iff.mp present
  have behind := List.drop_eq_getElem_cons inside
  rw [find_closing_scan behind pair, Except.ok.injEq, closing_iff_group behind pair,
    group_at_iff behind] at found
  obtain ⟨inner, closer, after, rest, place, facts⟩ := found
  rw [rest] at behind
  exact ⟨inner, closer, after, behind, place, facts⟩

theorem slice_inside (behind : text.drop index = opener :: (inner ++ closer :: after)) :
    Text.slice text (index + 1) (index + 1 + inner.length) = inner := by
  rw [Text.slice, drop_behind behind, Nat.add_sub_cancel_left, List.take_left]

/-- A group is found wherever its text stands. -/
theorem find_closing_anywhere (found : findClosing text index = .ok (some stop))
    (front back : Text) :
    findClosing (front ++ Text.slice text index (stop + 1) ++ back) front.length =
      .ok (some (front.length + (stop - index))) := by
  obtain ⟨opener, closer, present, -⟩ := opener_of_found found
  obtain ⟨inner, closer, after, behind, rfl, pair, inside, closing⟩ := group_of_found found present
  have size : index + 1 + inner.length + 1 - index = (opener :: (inner ++ [closer])).length := by
    simp only [List.length_cons, List.length_append, List.length_nil]
    omega
  have shape : opener :: (inner ++ closer :: after) = opener :: (inner ++ [closer]) ++ after := by
    simp
  have cut : Text.slice text index (index + 1 + inner.length + 1) = opener :: (inner ++ [closer]) := by
    rw [Text.slice, behind, size, shape, List.take_left]
  have moved : (front ++ Text.slice text index (index + 1 + inner.length + 1) ++ back).drop
      front.length = opener :: (inner ++ closer :: back) := by
    rw [cut, List.append_assoc, List.drop_left]
    simp
  have place : front.length + (index + 1 + inner.length - index) =
      front.length + 1 + inner.length := by omega
  rw [place]
  exact find_closing_behind moved pair id inside closing

-- A scan goes the same way wherever its text stands, found or not.
theorem closing_shift (angle : Bool) (offset : Nat) (text : Text) (stack : List Char) (position : Nat)
    (before : Char) (skip : Nat) :
    closingFrom angle stack (offset + position) before skip text =
      (closingFrom angle stack position before skip text).map (offset + ·) := by
  induction text generalizing stack position before skip with
  | nil => rfl
  | cons c rest ih =>
      simp only [closingFrom, Nat.add_assoc, ih]
      cases skip with
      | succ left => rfl
      | zero =>
          dsimp only
          cases triviaLength (c :: rest) with
          | succ length => rfl
          | zero =>
              dsimp only
              split
              next => rfl
              next =>
                split
                next =>
                  cases stack with
                  | nil => rfl
                  | cons top others =>
                      cases others with
                      | nil => dsimp only; split <;> rfl
                      | cons next others => dsimp only; split <;> rfl
                next => rfl

theorem find_closing_shift {text rest : Text} {index : Nat} {opener closer : Char}
    (behind : text.drop index = opener :: rest) (pair : closerOf? opener = some closer)
    (front : Text) :
    ∃ found, findClosing text index = .ok found ∧
      findClosing (front ++ text) (front.length + index) =
        .ok (found.map (front.length + ·)) := by
  have moved : (front ++ text).drop (front.length + index) = opener :: rest := by
    rw [← List.drop_drop, List.drop_left, behind]
  refine ⟨_, find_closing_scan behind pair, ?_⟩
  rw [find_closing_scan moved pair, Nat.add_assoc, closing_shift]

end Rescanning

section Nesting

variable {angle : Bool} {text : Text} {start : Stand} {stop : Nat} {c d : Char}

theorem opens_narrower (opening : opens angle c = true) : (c == '<') = true → angle = true := by
  intro same
  obtain rfl := eq_of_beq same
  simpa [opens] using opening

/-- The group that a scan meets on its way to `stop` ends before `stop`, and the scan finds its end as
it finds that of the group it set out from. -/
theorem met_group_closes {position : Nat} {stack : List Char} (opened : stack ≠ [])
    (scanned : scanFrom angle text ⟨position, stack⟩ = some stop)
    (present : text[position]? = some c) (opening : opens angle c = true) :
    ∃ closer close, findClosing text position = .ok (some close) ∧
      position < close ∧ close < stop ∧
      scanFrom angle text (.first position closer) = some close := by
  obtain ⟨inside, rfl⟩ := List.getElem?_eq_some_iff.mp present
  have behind := List.drop_eq_getElem_cons inside
  obtain ⟨closer, pair, goes⟩ := turn_open stack behind opening
  have within := goes.same.trans scanned
  rw [scan_behind behind] at within
  obtain ⟨inner, after, rest, closed, closing, resumed⟩ :=
    closing_sound _ closer stack _ _ _ stop (Nat.le_refl _) within
  rw [rest] at behind
  refine ⟨closer, position + 1 + inner.length, ?_, by omega, ?_, ?_⟩
  · exact find_closing_behind behind pair (opens_narrower opening) closed closing
  · -- Behind the inner group the scan goes on with the groups that were open before it.
    obtain ⟨next, others, rfl⟩ := List.exists_cons_of_ne_nil opened
    have ended : text.drop (position + 1 + inner.length) = closer :: after := by
      rw [← List.drop_drop, drop_behind behind, List.drop_left]
    rw [resume, ← scan_behind ended] at resumed
    have ahead := scan_ahead ⟨Nat.succ_pos _, List.cons_ne_nil next others⟩ resumed
    exact ahead
  · rw [Stand.first, scan_behind behind, closing_ends id closed pair closing]

/-- Of two groups that a scan meets, the second one starts behind the first or ends inside it. -/
theorem met_groups_apart {one two close close' : Nat} {stack stack' : List Char}
    (ready : start.Ready) (scanned : scanFrom angle text start = some stop)
    (first : Visits angle text start ⟨one, stack⟩) (second : Visits angle text start ⟨two, stack'⟩)
    (ordered : one < two) (present : text[one]? = some c) (opening : opens angle c = true)
    (present' : text[two]? = some d) (opening' : opens angle d = true)
    (found : findClosing text one = .ok (some close))
    (found' : findClosing text two = .ok (some close')) :
    close < two ∨ close' < close := by
  obtain ⟨readyOne, sameOne, walkOne⟩ := visits_keep ready first
  obtain ⟨-, -, walkTwo⟩ := visits_keep ready second
  obtain ⟨closer, end', found'', -, -, within⟩ :=
    met_group_closes readyOne.opened (sameOne.trans scanned) present opening
  obtain rfl : end' = close := by simpa using found''.symm.trans found
  by_cases beyond : end' < two
  · exact Or.inl beyond
  · -- The scan of the first group comes by the second one as well.
    have onward := reaches_next (reaches_between walkOne walkTwo (Nat.le_of_lt ordered)) ordered
    obtain ⟨inside, rfl⟩ := List.getElem?_eq_some_iff.mp present
    have behind := List.drop_eq_getElem_cons inside
    rw [stride_code behind (opens_no_trivia opening _)] at onward
    obtain ⟨stack'', met⟩ :=
      reached_visited (first_ready one closer) within onward (Nat.le_of_not_lt beyond)
    obtain ⟨readyTwo, sameTwo, -⟩ := visits_keep (first_ready one closer) met
    obtain ⟨-, end'', found''', -, inner, -⟩ :=
      met_group_closes readyTwo.opened (sameTwo.trans within) present' opening'
    obtain rfl : end'' = close' := by simpa using found'''.symm.trans found'
    exact Or.inr inner

/-- The scan of the group opened at `index` comes by `position`, outside trivia, and meets a bracket
there that opens a group. -/
def OpensInside (text : Text) (index position : Nat) : Prop :=
  ∃ opener closer stack c, text[index]? = some opener ∧ closerOf? opener = some closer ∧
    Visits (opener == '<') text (.first index closer) ⟨position, stack⟩ ∧
    skipTrivia text position = .ok position ∧ text[position]? = some c ∧
    opens (opener == '<') c = true

variable {index : Nat}

theorem inside_closes (found : findClosing text index = .ok (some stop)) {position : Nat}
    (met : OpensInside text index position) :
    ∃ close, findClosing text position = .ok (some close) ∧ index < position ∧ position < close ∧
      close < stop := by
  obtain ⟨opener, closer, stack, c, outer, pair, visited, -, present, opening⟩ := met
  have ready := first_ready index closer
  rw [find_closing_first outer pair, Except.ok.injEq] at found
  obtain ⟨ready', same, walked⟩ := visits_keep ready visited
  obtain ⟨closer', close, closed, less, before, -⟩ :=
    met_group_closes ready'.opened (same.trans found) present opening
  exact ⟨close, closed, reaches_ahead walked, less, before⟩

theorem insides_apart (found : findClosing text index = .ok (some stop)) {one two close close' : Nat}
    (first : OpensInside text index one) (second : OpensInside text index two) (ordered : one < two)
    (closed : findClosing text one = .ok (some close))
    (closed' : findClosing text two = .ok (some close')) :
    close < two ∨ close' < close := by
  obtain ⟨opener, closer, stack, c, outer, pair, visited, -, present, opening⟩ := first
  obtain ⟨opener', closer', stack', d, outer', pair', visited', -, present', opening'⟩ := second
  obtain rfl : opener' = opener := Option.some.inj (outer'.symm.trans outer)
  obtain rfl : closer' = closer := Option.some.inj (pair'.symm.trans pair)
  rw [find_closing_first outer pair, Except.ok.injEq] at found
  exact met_groups_apart (first_ready index closer') found visited visited' ordered present opening
    present' opening' closed closed'

end Nesting

section Arguments

variable {angle : Bool} {barred : Char → Bool} {before c : Char} {rest inner : Text}

theorem mark_no_trivia {token after : Text} (unquoted : isQuoteMark c = false) (code : c ≠ '/')
    (split : c :: rest = token ++ after) : ¬ Trivia token after := by
  intro delimited
  have length := trivia_length_complete delimited
  obtain ⟨first, others, rfl⟩ := trivia_nonempty delimited
  rw [← split, trivia_length_mark unquoted code] at length
  cases length

theorem closed_blank (white : Text.isBlank c = true)
    (closed : Closed angle barred before (c :: rest)) : Closed angle barred c rest := by
  have ordinary := class_not_mark (Text.each_of_all (by decide)) white
  simp only [scanMarks, List.mem_cons, List.not_mem_nil, or_false, not_or] at ordinary
  generalize whole : c :: rest = text at closed
  cases closed with
  | nil => cases whole
  | trivia delimited tail =>
      exact absurd delimited (mark_no_trivia (by simp [isQuoteMark, ordinary]) ordinary.2.2.2.1 whole)
  | plain _ _ _ _ _ tail =>
      obtain ⟨rfl, rfl⟩ := List.cons.inj whole
      exact tail
  | group opening =>
      obtain ⟨rfl, -⟩ := List.cons.inj whole
      simp [opens, ordinary] at opening

theorem closed_drop_blanks (text : Text) (closed : Closed angle barred before text) :
    ∃ last, Closed angle barred last (Text.dropBlanks text) := by
  induction text generalizing before with
  | nil => exact ⟨before, closed⟩
  | cons c rest ih =>
      by_cases white : Text.isBlank c = true
      · rw [Text.dropBlanks, List.dropWhile_cons_of_pos white]
        exact ih (closed_blank white closed)
      · rw [Text.dropBlanks, List.dropWhile_cons_of_neg white]
        exact ⟨before, closed⟩

theorem closed_brace (closed : Closed angle barred before ('\x7b' :: rest)) :
    ∃ inner after, rest = inner ++ '\x7d' :: after ∧
      Closed angle (fun _ => false) '\x7b' inner := by
  generalize whole : '\x7b' :: rest = text at closed
  cases closed with
  | nil => cases whole
  | trivia delimited tail =>
      exact absurd delimited (mark_no_trivia (by decide) (by decide) whole)
  | plain _ _ opening _ _ _ =>
      obtain ⟨rfl, rfl⟩ := List.cons.inj whole
      simp [opens] at opening
  | @group _ _ opener closer inner after opening pair inside closing tail =>
      obtain ⟨rfl, rfl⟩ := List.cons.inj whole
      obtain rfl : closer = '\x7d' := (Option.some.inj pair).symm
      exact ⟨inner, after, rfl, inside⟩

/-- Closed text that starts with a brace, but for white space, is scanned to the end of that brace, with
or without angle brackets. -/
theorem stripped_brace_closes (closed : Closed angle barred before inner)
    (brace : (Text.strip inner).head? = some '\x7b') :
    ∃ close, findClosing (Text.strip inner) 0 = .ok (some close) := by
  obtain ⟨last, closed⟩ := closed_drop_blanks inner closed
  rw [Text.strip] at brace ⊢
  generalize Text.dropBlanks inner = text at closed brace ⊢
  obtain ⟨trailing, -, split⟩ := Text.drop_blanks_end_split text
  obtain ⟨rest, trimmed⟩ := List.head?_eq_some_iff.mp brace
  rw [trimmed, List.cons_append] at split
  rw [← split] at closed
  obtain ⟨inner, after, shape, inside⟩ := closed_brace closed
  have kept : Text.dropBlanksEnd text =
      '\x7b' :: (inner ++ '\x7d' :: Text.dropBlanksEnd after) := by
    rw [← split, shape]
    exact Text.drop_blanks_end_mark (by decide) ('\x7b' :: inner) after
  have behind : (Text.dropBlanksEnd text).drop 0 =
      '\x7b' :: (inner ++ '\x7d' :: Text.dropBlanksEnd after) := kept
  exact ⟨_, find_closing_behind behind rfl (by simp) inside (by simp [closes])⟩

end Arguments

end PatternInspector.Literal
