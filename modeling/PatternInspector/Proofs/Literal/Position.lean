import PatternInspector.Proofs.Literal.Nesting
import PatternInspector.Proofs.Literal.Rendering

/-!
Positions of entries. The segments of a literal are its text, cut at separators; a segment that holds an
entry is white space and comments, the member, and white space. The position of an entry lies in its
segment, so the positions ascend inside the braces. It is the position of the member unless the first
character of the member occurs in a comment before it.
-/
namespace PatternInspector.Literal

section Cuts

variable {typeLiteral : Bool}

inductive Cut (typeLiteral : Bool) : Text → List Text → Prop
  | last (segment : Text) : Cut typeLiteral segment [segment]
  | more {mark : Char} {rest : Text} {others : List Text} (segment : Text)
      (separates : isSeparator typeLiteral mark = true) (tail : Cut typeLiteral rest others) :
      Cut typeLiteral (segment ++ mark :: rest) (segment :: others)

theorem cut_push {text : Text} {segments : List Text} (c : Char)
    (cut : Cut typeLiteral text segments) : Cut typeLiteral (c :: text) (pushFirst c segments) := by
  cases cut with
  | last => exact .last (c :: text)
  | more segment separates tail => exact .more (c :: segment) separates tail

theorem segments_cut (text : Text) (depth : Int) (before : Char) (skip : Nat) :
    Cut typeLiteral text (segmentsFrom typeLiteral depth before skip text) := by
  induction text generalizing depth before skip with
  | nil => exact .last []
  | cons c rest ih =>
      cases skip with
      | succ left => exact cut_push c (ih depth c left)
      | zero =>
          rw [segmentsFrom.eq_def]
          dsimp only
          split
          next length _ => exact cut_push c (ih depth c length)
          next =>
            split
            next separator =>
              have separates := (Bool.and_eq_true_iff.mp separator).2
              exact .more [] separates (ih depth c 0)
            next =>
              split
              next => exact cut_push c (ih _ c 0)
              next =>
                split
                next => exact cut_push c (ih _ c 0)
                next => exact cut_push c (ih _ c 0)

/-- A segment stands where it is placed. -/
theorem placed_stands {inside : Text} {segments : List Text} (cut : Cut typeLiteral inside segments)
    {base start : Nat} {segment : Text} (member : (start, segment) ∈ placed base segments) :
    ∃ left right, inside = left ++ (segment ++ right) ∧ start = base + left.length := by
  induction cut generalizing base with
  | last whole =>
      obtain ⟨rfl, rfl⟩ := Prod.mk.inj (List.mem_singleton.mp member)
      exact ⟨[], [], by simp, rfl⟩
  | @more mark rest others first separates tail ih =>
      rcases List.mem_cons.mp member with same | later
      · obtain ⟨rfl, rfl⟩ := Prod.mk.inj same
        exact ⟨[], mark :: rest, rfl, rfl⟩
      · obtain ⟨left, right, rfl, rfl⟩ := ih later
        refine ⟨first ++ mark :: left, right, by simp, ?_⟩
        simp only [List.length_append, List.length_cons]
        omega

end Cuts

section Leading

theorem drop_comments_exhausted {skip : Nat} {text : Text} (short : text.length ≤ skip) :
    dropCommentsFrom skip text = [] := by
  induction text generalizing skip with
  | nil => rfl
  | cons c rest ih =>
      cases skip with
      | zero => simp at short
      | succ left => exact ih (by simpa using short)

structure Leads (leading : List GapPart) (c : Char) (rest text : Text) : Prop where
  whole : text = leading.flatMap GapPart.render ++ c :: rest
  dark : Text.isBlank c = false
  code : startsComment (c :: rest) = false

theorem leads_cons {leading : List GapPart} {c : Char} {rest text : Text} (part : GapPart)
    (leads : Leads leading c rest text) : Leads (part :: leading) c rest (part.render ++ text) := by
  refine ⟨?_, leads.dark, leads.code⟩
  rw [leads.whole, List.flatMap_cons, List.append_assoc]

theorem gap_part_nonempty (part : GapPart) : 0 < part.render.length := by
  cases part with
  | blank | line | block => exact Nat.succ_pos _

/-- A comment at the start of a text is dropped, with all of the text if it has no end. -/
theorem drop_comments_comment {c : Char} {rest : Text} (comment : startsComment (c :: rest) = true) :
    dropComments (c :: rest) = [] ∨ ∃ (part : GapPart) (after : Text),
      c :: rest = part.render ++ after ∧ dropComments (c :: rest) = dropComments after := by
  have slash : c = '/' := by
    rw [starts_comment_cons] at comment
    exact eq_of_beq (Bool.and_eq_true_iff.mp comment).1
  have positive : triviaLength (c :: rest) ≠ 0 := by
    intro none
    rw [((trivia_length_zero_iff c rest).mp none).2] at comment
    cases comment
  obtain ⟨length, measured⟩ := Nat.exists_eq_succ_of_ne_zero positive
  rcases trivia_length_sound measured with ⟨token, after, split, -, delimited⟩ | all
  · right
    rw [split] at comment ⊢
    have dropped := drop_comments_trivia delimited comment
    cases delimited with
    | quoted mark inside =>
        obtain ⟨rfl, -⟩ := List.cons.inj split
        rw [slash] at mark
        exact absurd mark (by decide)
    | @line body after inside =>
        rw [drop_comments_blank (by decide)] at dropped
        exact ⟨.line body inside, after, by simp [GapPart.render], dropped⟩
    | @block body after inside => exact ⟨.block body inside, after, rfl, dropped⟩
  · left
    have dark : Text.isBlank c = false := slash ▸ by decide
    have enough : rest.length ≤ triviaLength (c :: rest) - 1 := by
      rw [measured]
      simpa using all
    rw [dropComments, dropCommentsFrom]
    simp only [dark, comment]
    exact drop_comments_exhausted enough

-- By induction on the length: each blank or comment leaves a shorter text.
theorem drop_comments_leads (bound : Nat) (text : Text) (short : text.length ≤ bound) :
    dropComments text = [] ∨
      ∃ leading c rest, dropComments text = c :: rest ∧ Leads leading c rest text := by
  induction bound generalizing text with
  | zero =>
      obtain rfl : text = [] := List.length_eq_zero_iff.mp (Nat.le_zero.mp short)
      exact Or.inl rfl
  | succ bound ih =>
      have behind (part : GapPart) (after : Text) (shape : text = part.render ++ after)
          (dropped : dropComments text = dropComments after) :
          dropComments text = [] ∨
            ∃ leading c rest, dropComments text = c :: rest ∧ Leads leading c rest text := by
        have less : after.length ≤ bound := by
          have positive := gap_part_nonempty part
          rw [shape, List.length_append] at short
          omega
        rw [dropped]
        rcases ih after less with nothing | ⟨leading, c, rest, kept, leads⟩
        · exact Or.inl nothing
        · exact Or.inr ⟨part :: leading, c, rest, kept, shape ▸ leads_cons part leads⟩
      cases text with
      | nil => exact Or.inl rfl
      | cons c rest =>
          cases white : Text.isBlank c with
          | true => exact behind (.blank c white) rest rfl (drop_comments_blank white rest)
          | false =>
              cases comment : startsComment (c :: rest) with
              | false => exact Or.inr ⟨[], c, rest, drop_comments_here white comment, rfl, white, comment⟩
              | true =>
                  rcases drop_comments_comment comment with nothing | ⟨part, after, shape, dropped⟩
                  · exact Or.inl nothing
                  · exact behind part after shape dropped

end Leading

section Places

structure Holds (segment : Text) (leading : List GapPart) (first : Char) (member trailing : Text) :
    Prop where
  whole : segment = leading.flatMap GapPart.render ++ (member ++ trailing)
  starts : member.head? = some first
  dark : Text.isBlank first = false
  code : startsComment member = false
  ends : Text.Avoids Text.isBlank member.reverse
  white : ∀ c ∈ trailing, Text.isBlank c = true

theorem segment_holds {segment rest : Text} {first : Char}
    (stripped : Text.strip (dropComments segment) = first :: rest) :
    ∃ leading trailing, Holds segment leading first (first :: rest) trailing := by
  rcases drop_comments_leads segment.length segment (Nat.le_refl _) with
    nothing | ⟨leading, c, behind, kept, leads⟩
  · rw [nothing] at stripped
    cases stripped
  · obtain ⟨trailing, white, split⟩ := Text.drop_blanks_end_split (c :: behind)
    have trimmed : Text.dropBlanksEnd (c :: behind) = first :: rest := by
      rw [kept, Text.strip, Text.drop_blanks_avoids (Text.avoids_cons leads.dark behind)] at stripped
      exact stripped
    rw [trimmed] at split
    obtain ⟨rfl, rfl⟩ := List.cons.inj split
    refine ⟨leading, trailing, leads.whole, rfl, leads.dark, ?_, ?_, white⟩
    · exact starts_comment_shrink leads.code
    · rw [← trimmed, Text.dropBlanksEnd, List.reverse_reverse]
      exact Text.dropped_avoids _

/-- The first place of the character `first` in a segment that has `leading` before it. -/
structure FirstAt (segment leading : Text) (first : Char) (offset : Nat) : Prop where
  bound : offset ≤ leading.length
  present : segment[offset]? = some first
  own : offset = leading.length ↔ first ∉ leading

theorem find_first (leading : Text) (first : Char) (rest : Text) :
    ∃ offset, (leading ++ first :: rest).findIdx? (· == first) = some offset ∧
      FirstAt (leading ++ first :: rest) leading first offset := by
  induction leading with
  | nil => exact ⟨0, by simp [List.findIdx?_cons], by simp, rfl, by simp⟩
  | cons c leading ih =>
      obtain ⟨offset, found, bound, present, own⟩ := ih
      by_cases same : c = first
      · subst same
        exact ⟨0, by simp [List.findIdx?_cons], by simp, rfl, by simp⟩
      · refine ⟨offset + 1, ?_, by simpa using bound, present, ?_⟩
        · rw [List.cons_append, List.findIdx?_cons, found]
          simp [same]
        · have other : first ≠ c := Ne.symm same
          simp [own, other]

theorem entry_found {segment : Text} {start : Nat} {entry : Entry}
    (named : entryOf? start segment = some entry) :
    ∃ leading first member trailing offset, Holds segment leading first member trailing ∧
      entry.start = start + offset ∧
      FirstAt segment (leading.flatMap GapPart.render) first offset := by
  unfold entryOf? at named
  split at named
  next => cases named
  next first rest stripped =>
    obtain ⟨leading, trailing, holds⟩ := segment_holds stripped
    obtain ⟨offset, found, place⟩ :=
      find_first (leading.flatMap GapPart.render) first (rest ++ trailing)
    have whole : segment = leading.flatMap GapPart.render ++ first :: (rest ++ trailing) := holds.whole
    rw [← whole] at found place
    refine ⟨leading, first, first :: rest, trailing, offset, holds, ?_, place⟩
    dsimp only at named
    split at named
    next => cases named
    next =>
      split at named
      next => cases named
      next =>
        obtain rfl := Option.some.inj named
        rw [found]
        rfl

theorem entry_within {segment : Text} {start : Nat} {entry : Entry}
    (named : entryOf? start segment = some entry) :
    start ≤ entry.start ∧ entry.start < start + segment.length := by
  obtain ⟨leading, c, member, trailing, offset, -, place, first⟩ := entry_found named
  have inside := (List.getElem?_eq_some_iff.mp first.present).1
  omega

end Places

section Order

theorem placed_behind {base start : Nat} {segments : List Text} {segment : Text}
    (member : (start, segment) ∈ placed base segments) : base ≤ start := by
  induction segments generalizing base with
  | nil => cases member
  | cons first others ih =>
      rcases List.mem_cons.mp member with same | later
      · exact Nat.le_of_eq (Prod.mk.inj same).1.symm
      · have ahead := ih later
        omega

theorem entries_ascend (base : Nat) (segments : List Text) :
    ((placed base segments).filterMap fun segment => entryOf? segment.1 segment.2).Pairwise
      fun one two => one.start < two.start := by
  induction segments generalizing base with
  | nil => exact .nil
  | cons segment others ih =>
      have tail := ih (base + segment.length + 1)
      rw [placed, List.filterMap_cons]
      cases named : entryOf? base segment with
      | none => exact tail
      | some entry =>
          refine List.pairwise_cons.mpr ⟨?_, tail⟩
          intro later member
          obtain ⟨⟨start, other⟩, there, named'⟩ := List.mem_filterMap.mp member
          have first := (entry_within named).2
          have second := (entry_within named').1
          have apart := placed_behind there
          dsimp only at second
          omega

end Order

section Literals

variable {text : Text} {index close : Nat} {typeLiteral : Bool}

def segmentsOf (text : Text) (index close : Nat) (typeLiteral : Bool) : List (Nat × Text) :=
  placed (index + 1) (segmentsFrom typeLiteral 0 '\x7b' 0 (Text.slice text (index + 1) close))

theorem object_entries_segments (brace : text[index]? = some '\x7b')
    (found : findClosing text index = .ok (some close)) :
    objectEntries text index typeLiteral =
      .ok ((segmentsOf text index close typeLiteral).filterMap
        fun segment => entryOf? segment.1 segment.2) := by
  rw [objectEntries, entriesBy, found, brace]
  rfl

theorem object_entries_unclosed (found : findClosing text index = .ok none) :
    objectEntries text index typeLiteral = .ok [] := by
  rw [objectEntries, entriesBy, found]
  rfl

/-- A segment stands in the text at its position, before the closing brace. -/
theorem segment_stands (brace : text[index]? = some '\x7b')
    (found : findClosing text index = .ok (some close)) {start : Nat} {segment : Text}
    (member : (start, segment) ∈ segmentsOf text index close typeLiteral) :
    segment <+: text.drop start ∧ index < start ∧ start + segment.length ≤ close := by
  obtain ⟨inner, closer, after, behind, rfl, -⟩ := group_of_found found brace
  obtain ⟨left, right, split, rfl⟩ := placed_stands (segments_cut _ 0 '\x7b' 0) member
  rw [slice_inside behind] at split
  refine ⟨⟨right ++ closer :: after, ?_⟩, by omega, ?_⟩
  · rw [← List.drop_drop, drop_behind behind, split, List.append_assoc, List.drop_left,
      List.append_assoc]
  · rw [split, List.length_append, List.length_append]
    omega

/-- Where an entry is found, in a text whose segment at `start` has `leading` before the member. -/
structure Located (text : Text) (entry : Entry) (start : Nat) (leading : Text) (first : Char)
    (member : Text) : Prop where
  stands : member <+: text.drop (start + leading.length)
  present : text[entry.start]? = some first
  behind : start ≤ entry.start
  bound : entry.start ≤ start + leading.length
  own : entry.start = start + leading.length ↔ first ∉ leading

theorem entry_located {start : Nat} {segment : Text} {entry : Entry}
    (stands : segment <+: text.drop start) (named : entryOf? start segment = some entry) :
    ∃ leading first member trailing, Holds segment leading first member trailing ∧
      Located text entry start (leading.flatMap GapPart.render) first member := by
  obtain ⟨leading, first, member, trailing, offset, holds, place, firstAt⟩ := entry_found named
  obtain ⟨after, split⟩ := stands
  refine ⟨leading, first, member, trailing, holds, ?_, ?_, by omega, ?_, ?_⟩
  · refine ⟨trailing ++ after, ?_⟩
    rw [← List.drop_drop, ← split, holds.whole]
    simp
  · have inside := (List.getElem?_eq_some_iff.mp firstAt.present).1
    rw [place, ← List.getElem?_drop, ← split, List.getElem?_append_left inside, firstAt.present]
  · have bound := firstAt.bound
    omega
  · rw [← firstAt.own, place]
    omega

end Literals

/-- The entries of a literal are found at ascending positions inside its braces, each in the segment
that holds it. An entry is found at its member exactly if no comment before the member holds the first
character of the member; otherwise it is found in such a comment. -/
theorem entry_positions (text : Text) (index : Nat) (typeLiteral : Bool)
    (brace : text[index]? = some '\x7b') :
    ∃ entries, objectEntries text index typeLiteral = .ok entries ∧
      entries.Pairwise (fun one two => one.start < two.start) ∧
      ∀ entry ∈ entries, ∃ close start segment leading first member trailing,
        findClosing text index = .ok (some close) ∧ index < entry.start ∧ entry.start < close ∧
        (start, segment) ∈ segmentsOf text index close typeLiteral ∧
        entryOf? start segment = some entry ∧ Holds segment leading first member trailing ∧
        Located text entry start (leading.flatMap GapPart.render) first member := by
  cases found : findClosing text index with
  | error fault =>
      rw [find_closing_first brace rfl] at found
      cases found
  | ok result =>
      cases result with
      | none => exact ⟨[], object_entries_unclosed found, .nil, by simp⟩
      | some close =>
          refine ⟨_, object_entries_segments brace found, entries_ascend _ _, ?_⟩
          intro entry member
          obtain ⟨⟨start, segment⟩, there, named⟩ := List.mem_filterMap.mp member
          obtain ⟨stands, behind, before⟩ := segment_stands brace found there
          obtain ⟨leading, first, own, trailing, holds, located⟩ := entry_located stands named
          have within := entry_within named
          dsimp only at within
          exact ⟨close, start, segment, leading, first, own, trailing, rfl, by omega, by omega, there,
            named, holds, located⟩

/-- A comment before the first member that does not hold its first character, and a quoted key. -/
theorem entry_positions_quoted :
    let text := "\x7b /* b */ a: 1, 'c': 2 \x7d".toList
    text[0]? = some '\x7b' ∧ ∃ entries, objectEntries text 0 false = .ok entries ∧
      entries.map (·.start) = [10, 16] ∧ entries.Pairwise (fun one two => one.start < two.start) := by
  intro text
  have brace : text[0]? = some '\x7b' := rfl
  have starts : (objectEntries text 0 false).toOption.map (fun entries => entries.map (·.start)) =
      some [10, 16] := by decide +kernel
  obtain ⟨entries, given, ascend, -⟩ := entry_positions text 0 false brace
  rw [given] at starts
  exact ⟨brace, entries, given, Option.some.inj starts, ascend⟩

/-- The first character of the member occurs in the comment before it, and is found there. -/
theorem entry_found_in_comment :
    let text := "\x7b /* a */ a: 1 \x7d".toList
    (objectEntries text 0 false).toOption = some [⟨"a", ['1'], 5⟩] ∧
      ¬ "a: 1".toList <+: text.drop 5 ∧ "a: 1".toList <+: text.drop 10 := by
  decide +kernel

end PatternInspector.Literal
