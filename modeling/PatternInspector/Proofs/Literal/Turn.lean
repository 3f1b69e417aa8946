import Mathlib.Logic.Function.Iterate
import Mathlib.Order.Monotone.Basic
import PatternInspector.Proofs.Literal.Group

/-!
The scan for a closing bracket, turn by turn. A turn reads the text at the position of the scan, the
character before it and the innermost open group, each of which might be missing. What a turn can do is
said once; it follows that no turn of a scan misses what it reads, that the turns come to the result of
the scan, and which positions they visit.
-/
namespace PatternInspector.Literal

section Turns

/-- Where a scan stands: the position it reads next, and the closers of the open groups, the innermost
first. -/
structure Stand where
  index : Nat
  stack : List Char

inductive Turn where
  | on (next : Stand)
  | ended (found : Option Nat)

/-- The turn at a closer: it must be that of the innermost group, and ends the scan if that group is the
last one. -/
def closerTurn? (stand : Stand) (c : Char) : Option Turn := do
  let top ← stand.stack.head?
  if c = top then
    match stand.stack.tail with
    | [] => return .ended (some stand.index)
    | next :: others => return .on ⟨stand.index + 1, next :: others⟩
  else return .ended none

def codeTurn? (angle : Bool) (text : Text) (stand : Stand) (c : Char) : Option Turn :=
  if opens angle c then do
    let closer ← closerOf? c
    return .on ⟨stand.index + 1, closer :: stand.stack⟩
  else do
    let before ← text[stand.index - 1]?
    if closes angle before c then closerTurn? stand c
    else return .on ⟨stand.index + 1, stand.stack⟩

/-- One turn of the scan; none if it reads what is not there. -/
def turn? (angle : Bool) (text : Text) (stand : Stand) : Option Turn :=
  if stand.index < text.length then do
    let after ← (skipTrivia text stand.index).toOption
    if after = stand.index then do
      let c ← text[stand.index]?
      codeTurn? angle text stand c
    else return .on ⟨after, stand.stack⟩
  else return .ended none

def scanFrom (angle : Bool) (text : Text) (stand : Stand) : Option Nat :=
  closingFrom angle stand.stack stand.index (Text.lastAfter ' ' (text.take stand.index)) 0
    (text.drop stand.index)

def stride (text : Text) (index : Nat) : Nat := index + max 1 (triviaLength (text.drop index))

structure Stand.Ready (stand : Stand) : Prop where
  inside : 0 < stand.index
  opened : stand.stack ≠ []

end Turns

section Steps

variable {angle : Bool} {text : Text} {index : Nat} {c : Char}

theorem last_after_take (present : text[index]? = some c) (before : Char) :
    Text.lastAfter before (text.take (index + 1)) = c := by
  rw [List.take_add_one, present]
  simp

theorem present_behind {rest : Text} (behind : text.drop index = c :: rest) :
    text[index]? = some c := by
  rw [← List.head?_drop, behind]
  rfl

theorem drop_behind {rest : Text} (behind : text.drop index = c :: rest) :
    text.drop (index + 1) = rest := by
  rw [← List.drop_drop, behind]
  rfl

theorem scan_behind {rest : Text} (behind : text.drop index = c :: rest) (stack : List Char) :
    scanFrom angle text ⟨index + 1, stack⟩ = closingFrom angle stack (index + 1) c 0 rest := by
  rw [scanFrom, last_after_take (present_behind behind), drop_behind behind]

theorem closing_jump (stack : List Char) (position : Nat) (before : Char) (skip : Nat) (text : Text) :
    closingFrom angle stack position before skip text =
      closingFrom angle stack (position + skip) (Text.lastAfter before (text.take skip)) 0
        (text.drop skip) := by
  induction text generalizing position before skip with
  | nil => simp [closingFrom]
  | cons c rest ih =>
      cases skip with
      | zero => rfl
      | succ left =>
          have total : position + 1 + left = position + (left + 1) := by omega
          rw [closingFrom, ih, total]
          rfl

theorem scan_trivia {rest : Text} {length : Nat} (behind : text.drop index = c :: rest)
    (measured : triviaLength (c :: rest) = length + 1) (stack : List Char) :
    scanFrom angle text ⟨index + (length + 1), stack⟩ = scanFrom angle text ⟨index, stack⟩ := by
  have here : scanFrom angle text ⟨index, stack⟩ =
      closingFrom angle stack (index + 1) c length rest := by
    rw [scanFrom, behind]
    simp only [closingFrom, measured]
  have total : index + 1 + length = index + (length + 1) := by omega
  rw [here, closing_jump, scanFrom, total, ← List.drop_drop, List.take_add, behind]
  simp

theorem stride_trivia {rest : Text} {length : Nat} (behind : text.drop index = c :: rest)
    (measured : triviaLength (c :: rest) = length + 1) :
    stride text index = index + (length + 1) := by
  rw [stride, behind, measured]
  omega

theorem stride_code {rest : Text} (behind : text.drop index = c :: rest)
    (code : triviaLength (c :: rest) = 0) : stride text index = index + 1 := by
  rw [stride, behind, code]
  rfl

theorem skip_trivia_behind {rest : Text} (behind : text.drop index = c :: rest) :
    skipTrivia text index = .ok (index + triviaLength (c :: rest)) := by
  obtain ⟨inside, -⟩ := List.getElem?_eq_some_iff.mp (present_behind behind)
  rw [skipTrivia, if_pos inside, behind]

/-- The turn goes on to `next`, a stand from which the scan gives the same. -/
structure GoesOn (angle : Bool) (text : Text) (stand next : Stand) : Prop where
  turned : turn? angle text stand = some (.on next)
  ready : next.Ready
  steps : next.index = stride text stand.index
  same : scanFrom angle text next = scanFrom angle text stand

/-- The turn ends the scan, at its position if it has found the closing bracket. -/
structure Stops (angle : Bool) (text : Text) (stand : Stand) : Prop where
  turned : turn? angle text stand = some (.ended (scanFrom angle text stand))
  place : ∀ stop, scanFrom angle text stand = some stop → stop = stand.index

theorem turn_outside {stack : List Char} (outside : text.drop index = []) :
    Stops angle text ⟨index, stack⟩ := by
  have nothing : scanFrom angle text ⟨index, stack⟩ = none := by
    rw [scanFrom, outside, closingFrom]
  have past : ¬ index < text.length := Nat.not_lt.mpr (List.drop_eq_nil_iff.mp outside)
  constructor
  · rw [turn?, if_neg past, nothing]
    rfl
  · intro stop found
    rw [nothing] at found
    cases found

theorem turn_trivia {rest : Text} {length : Nat} {stack : List Char} (opened : stack ≠ [])
    (behind : text.drop index = c :: rest) (measured : triviaLength (c :: rest) = length + 1) :
    GoesOn angle text ⟨index, stack⟩ ⟨index + (length + 1), stack⟩ := by
  refine ⟨?_, ⟨by dsimp only; omega, opened⟩, (stride_trivia behind measured).symm,
    scan_trivia behind measured stack⟩
  have within := (List.getElem?_eq_some_iff.mp (present_behind behind)).1
  have moved : ¬ index + (length + 1) = index := by omega
  rw [turn?, if_pos within, skip_trivia_behind behind, measured]
  exact if_neg moved

theorem turn_code {rest : Text} (stack : List Char) (behind : text.drop index = c :: rest)
    (code : triviaLength (c :: rest) = 0) :
    turn? angle text ⟨index, stack⟩ = codeTurn? angle text ⟨index, stack⟩ c := by
  have present := present_behind behind
  have within := (List.getElem?_eq_some_iff.mp present).1
  rw [turn?, if_pos within, skip_trivia_behind behind, code]
  change (if index = index then text[index]?.bind _ else _) = _
  rw [if_pos rfl, present]
  rfl

theorem turn_open {rest : Text} (stack : List Char) (behind : text.drop index = c :: rest)
    (opening : opens angle c = true) :
    ∃ closer, closerOf? c = some closer ∧
      GoesOn angle text ⟨index, stack⟩ ⟨index + 1, closer :: stack⟩ := by
  obtain ⟨closer, pair⟩ := opens_pair opening
  have code := opens_no_trivia opening rest
  refine ⟨closer, pair, ?_, ⟨by simp, by simp⟩, (stride_code behind code).symm, ?_⟩
  · rw [turn_code stack behind code, codeTurn?, if_pos opening, pair]
    rfl
  · rw [scan_behind behind, scanFrom, behind, closing_open opening pair]

-- The character before a position that is not the first one is there.
theorem previous_present {rest : Text} (inside : 0 < index) (behind : text.drop index = c :: rest) :
    text[index - 1]? = some (Text.lastAfter ' ' (text.take index)) := by
  have within := (List.getElem?_eq_some_iff.mp (present_behind behind)).1
  obtain ⟨before, present⟩ : ∃ before, text[index - 1]? = some before :=
    ⟨_, List.getElem?_eq_getElem (by omega)⟩
  have last := last_after_take present ' '
  rw [Nat.sub_add_cancel inside] at last
  rw [last, present]

theorem turn_unopened {rest : Text} (stack : List Char) (inside : 0 < index)
    (behind : text.drop index = c :: rest) (code : triviaLength (c :: rest) = 0)
    (opening : opens angle c = false) :
    turn? angle text ⟨index, stack⟩ =
      if closes angle (Text.lastAfter ' ' (text.take index)) c then closerTurn? ⟨index, stack⟩ c
      else some (.on ⟨index + 1, stack⟩) := by
  rw [turn_code stack behind code, codeTurn?, if_neg (by simp [opening])]
  dsimp only
  rw [previous_present inside behind]
  rfl

theorem turn_plain {rest : Text} {stack : List Char} (inside : 0 < index) (opened : stack ≠ [])
    (behind : text.drop index = c :: rest) (code : triviaLength (c :: rest) = 0)
    (opening : opens angle c = false)
    (closing : closes angle (Text.lastAfter ' ' (text.take index)) c = false) :
    GoesOn angle text ⟨index, stack⟩ ⟨index + 1, stack⟩ := by
  refine ⟨?_, ⟨by simp, opened⟩, (stride_code behind code).symm, ?_⟩
  · rw [turn_unopened stack inside behind code opening, if_neg (by simp [closing])]
  · rw [scan_behind behind, scanFrom, behind, closing_plain code opening closing]

theorem turn_close {rest : Text} {top : Char} {others : List Char} (inside : 0 < index)
    (behind : text.drop index = c :: rest) (code : triviaLength (c :: rest) = 0)
    (closing : closes angle (Text.lastAfter ' ' (text.take index)) c = true) :
    (∃ next, GoesOn angle text ⟨index, top :: others⟩ next) ∨
      Stops angle text ⟨index, top :: others⟩ := by
  have turned := turn_unopened (top :: others) inside behind code (closes_not_opens closing)
  have scanned : scanFrom angle text ⟨index, top :: others⟩ =
      if c = top then resume angle others index top rest else none := by
    rw [scanFrom, behind, closing_close code closing]
  rw [if_pos closing] at turned
  by_cases same : c = top
  · subst same
    rw [if_pos rfl] at scanned
    cases others with
    | nil =>
        refine Or.inr ⟨?_, ?_⟩
        · rw [turned, scanned]
          simp [closerTurn?, resume]
        · intro stop found
          rw [scanned] at found
          exact (Option.some.inj found).symm
    | cons next others =>
        refine Or.inl ⟨⟨index + 1, next :: others⟩, ?_, ⟨by simp, by simp⟩,
          (stride_code behind code).symm, ?_⟩
        · rw [turned]
          simp [closerTurn?]
        · rw [scan_behind behind, scanned, resume]
  · rw [if_neg same] at scanned
    refine Or.inr ⟨?_, ?_⟩
    · rw [turned, scanned]
      simp [closerTurn?, same]
    · intro stop found
      rw [scanned] at found
      cases found

/-- All that a turn can do: no turn misses what it reads. -/
theorem turn_cases (angle : Bool) (text : Text) {stand : Stand} (ready : stand.Ready) :
    (∃ next, GoesOn angle text stand next) ∨ Stops angle text stand := by
  obtain ⟨index, stack⟩ := stand
  obtain ⟨inside, opened⟩ := ready
  cases behind : text.drop index with
  | nil => exact Or.inr (turn_outside behind)
  | cons c rest =>
      cases measured : triviaLength (c :: rest) with
      | succ length => exact Or.inl ⟨_, turn_trivia opened behind measured⟩
      | zero =>
          cases opening : opens angle c with
          | true =>
              obtain ⟨closer, -, goes⟩ := turn_open stack behind opening
              exact Or.inl ⟨_, goes⟩
          | false =>
              cases closing : closes angle (Text.lastAfter ' ' (text.take index)) c with
              | true =>
                  obtain ⟨top, others, rfl⟩ := List.exists_cons_of_ne_nil opened
                  exact turn_close inside behind measured closing
              | false => exact Or.inl ⟨_, turn_plain inside opened behind measured opening closing⟩

end Steps

section Runs

variable {angle : Bool} {text : Text} {start stand next : Stand}

inductive Visits (angle : Bool) (text : Text) (start : Stand) : Stand → Prop
  | here : Visits angle text start start
  | onward {stand next : Stand} (earlier : Visits angle text start stand)
      (turned : turn? angle text stand = some (.on next)) : Visits angle text start next

theorem visits_first (turned : turn? angle text start = some (.on next))
    (later : Visits angle text next stand) : Visits angle text start stand := by
  induction later with
  | here => exact .onward .here turned
  | onward _ turned' ih => exact .onward ih turned'

def Reaches (text : Text) (first position : Nat) : Prop := ∃ n, (stride text)^[n] first = position

theorem goes_on_of_turn (ready : stand.Ready) (turned : turn? angle text stand = some (.on next)) :
    GoesOn angle text stand next := by
  rcases turn_cases angle text ready with ⟨other, goes⟩ | stops
  · have same := goes.turned.symm.trans turned
    rw [Option.some.injEq, Turn.on.injEq] at same
    exact same ▸ goes
  · have clash := stops.turned.symm.trans turned
    cases clash

theorem visits_keep (ready : start.Ready) (visited : Visits angle text start stand) :
    stand.Ready ∧ scanFrom angle text stand = scanFrom angle text start ∧
      Reaches text start.index stand.index := by
  induction visited with
  | here => exact ⟨ready, rfl, 0, rfl⟩
  | onward earlier turned ih =>
      obtain ⟨ready', same, n, walked⟩ := ih
      have goes := goes_on_of_turn ready' turned
      refine ⟨goes.ready, goes.same.trans same, n + 1, ?_⟩
      rw [Function.iterate_succ_apply', walked, goes.steps]

theorem stride_ahead (text : Text) (index : Nat) : index < stride text index := by
  rw [stride]
  omega

theorem walk_ascends (text : Text) (index : Nat) :
    StrictMono fun n => (stride text)^[n] index := by
  apply strictMono_nat_of_lt_succ
  intro n
  rw [Function.iterate_succ_apply']
  exact stride_ahead text _

theorem reaches_ahead {first position : Nat} (walked : Reaches text first position) :
    first ≤ position := by
  obtain ⟨n, rfl⟩ := walked
  exact (walk_ascends text first).monotone (Nat.zero_le n)

-- A walk has no branches: of two positions on it, the later one is reached from the earlier one.
theorem reaches_between {first one two : Nat} (before : Reaches text first one)
    (after : Reaches text first two) (ordered : one ≤ two) : Reaches text one two := by
  obtain ⟨n, rfl⟩ := before
  obtain ⟨m, rfl⟩ := after
  have count : n ≤ m := (walk_ascends text first).le_iff_le.mp ordered
  refine ⟨m - n, ?_⟩
  rw [← Function.iterate_add_apply, Nat.sub_add_cancel count]

theorem reaches_next {first position : Nat} (walked : Reaches text first position)
    (later : first < position) : Reaches text (stride text first) position := by
  obtain ⟨n, rfl⟩ := walked
  cases n with
  | zero => exact absurd later (Nat.lt_irrefl _)
  | succ n => exact ⟨n, rfl⟩

/-- A scan that finds the closing bracket comes by every position of the walk up to there. -/
theorem reached_visited {stop position : Nat} (ready : start.Ready)
    (scanned : scanFrom angle text start = some stop) (walked : Reaches text start.index position)
    (bound : position ≤ stop) : ∃ stack, Visits angle text start ⟨position, stack⟩ := by
  obtain ⟨n, rfl⟩ := walked
  induction n generalizing start with
  | zero => exact ⟨start.stack, .here⟩
  | succ n ih =>
      rw [Function.iterate_succ_apply] at bound ⊢
      rcases turn_cases angle text ready with ⟨next, goes⟩ | stops
      · rw [← goes.steps] at bound ⊢
        obtain ⟨stack, visited⟩ := ih goes.ready (goes.same.trans scanned) bound
        exact ⟨stack, visits_first goes.turned visited⟩
      · have ahead := stride_ahead text start.index
        have along : stride text start.index ≤ (stride text)^[n] (stride text start.index) :=
          reaches_ahead ⟨n, rfl⟩
        have place := stops.place stop scanned
        omega

-- By induction on the characters ahead, of which each turn leaves fewer.
theorem turns_end (ahead : Nat) (ready : start.Ready) (bound : text.length - start.index ≤ ahead) :
    ∃ stand, Visits angle text start stand ∧
      turn? angle text stand = some (.ended (scanFrom angle text start)) := by
  induction ahead generalizing start with
  | zero =>
      have outside : text.drop start.index = [] := List.drop_eq_nil_iff.mpr (by omega)
      exact ⟨start, .here, (turn_outside outside).turned⟩
  | succ ahead ih =>
      rcases turn_cases angle text ready with ⟨next, goes⟩ | stops
      · have moved := stride_ahead text start.index
        have steps := goes.steps
        obtain ⟨stand, visited, ended⟩ := ih goes.ready (by omega)
        rw [goes.same] at ended
        exact ⟨stand, visits_first goes.turned visited, ended⟩
      · exact ⟨start, .here, stops.turned⟩

/-- What is found lies at or behind the position of the scan. -/
theorem scan_ahead {stop : Nat} (ready : start.Ready)
    (scanned : scanFrom angle text start = some stop) : start.index ≤ stop := by
  obtain ⟨stand, visited, ended⟩ := turns_end (text.length - start.index) ready (Nat.le_refl _)
  obtain ⟨ready', same, walked⟩ := visits_keep ready visited
  rcases turn_cases angle text ready' with ⟨next, goes⟩ | stops
  · have clash := goes.turned.symm.trans ended
    cases clash
  · rw [stops.place stop (same.trans scanned)]
    exact reaches_ahead walked

end Runs

section Scans

def Stand.first (index : Nat) (closer : Char) : Stand := ⟨index + 1, [closer]⟩

theorem first_ready (index : Nat) (closer : Char) : (Stand.first index closer).Ready :=
  ⟨Nat.succ_pos index, List.cons_ne_nil closer []⟩

theorem find_closing_first {text : Text} {index : Nat} {opener closer : Char}
    (present : text[index]? = some opener) (pair : closerOf? opener = some closer) :
    findClosing text index = .ok (scanFrom (opener == '<') text (.first index closer)) := by
  obtain ⟨inside, rfl⟩ := List.getElem?_eq_some_iff.mp present
  have behind := List.drop_eq_getElem_cons inside
  rw [find_closing_scan behind pair, Stand.first, scan_behind behind]

end Scans

end PatternInspector.Literal
