import PatternInspector.Proofs.Literal.Member

/-!
Whole literals as they are written: members with the white space and comments around them and the
separators between them. The main statement is that reading the entries of a written literal gives
back its named members.
-/
namespace PatternInspector.Literal

section Written

inductive GapPart where
  | blank (c : Char) (white : Text.isBlank c = true)
  | line (body : Text) (inside : '\n' ∉ body)
  | block (body : Text) (inside : BlockBody body)

def GapPart.render : GapPart → Text
  | .blank c _ => [c]
  | .line body _ => '/' :: '/' :: (body ++ ['\n'])
  | .block body _ => '/' :: '*' :: (body ++ ['*', '/'])

structure Item (typeLiteral : Bool) where
  leading : List GapPart
  member : Member typeLiteral
  trailing : Text
  white : ∀ c ∈ trailing, Text.isBlank c = true

def Item.render {typeLiteral : Bool} (item : Item typeLiteral) : Text :=
  item.leading.flatMap GapPart.render ++ (item.member.render ++ item.trailing)

/-- The items of a literal and the separators between them; a separator may also stand behind the
last item. -/
inductive Items (typeLiteral : Bool) where
  | none
  | last (item : Item typeLiteral)
  | more (item : Item typeLiteral) (mark : Char) (separates : isSeparator typeLiteral mark = true)
      (others : Items typeLiteral)

namespace Items

variable {typeLiteral : Bool}

def inside : Items typeLiteral → Text
  | none => []
  | last item => item.render
  | more item mark _ others => item.render ++ mark :: others.inside

def members : Items typeLiteral → List (Member typeLiteral)
  | none => []
  | last item => [item.member]
  | more item _ _ others => item.member :: others.members

def render (items : Items typeLiteral) : Text := '\x7b' :: (items.inside ++ ['\x7d'])

end Items

end Written

section Cuts

variable {typeLiteral : Bool} {before : Char} {held rest : Text}

/-- The names in the segments of a text, the first of which starts with what is `held`. -/
def namesFrom (typeLiteral : Bool) (held : Text) (before : Char) (text : Text) :
    List (String × Text) :=
  namesOf (pushAll held (segmentsFrom typeLiteral 0 before 0 text))

theorem names_pass {inner : Text}
    (closed : Closed typeLiteral (isSeparator typeLiteral) before inner) (boundary : Sealed rest) :
    namesFrom typeLiteral held before (inner ++ rest) =
      namesFrom typeLiteral (held ++ inner) (Text.lastAfter before inner) rest := by
  rw [namesFrom, segments_passes closed (Int.le_refl 0) (fun _ _ separates => separates) rest boundary,
    ← push_all_append, namesFrom]

theorem names_trivia {token : Text} (delimited : Trivia token rest) :
    namesFrom typeLiteral held before (token ++ rest) =
      namesFrom typeLiteral (held ++ token) (Text.lastAfter before token) rest := by
  rw [namesFrom, segments_trivia delimited, ← push_all_append, namesFrom]

theorem names_mark {c : Char} (ordinary : c ∉ scanMarks)
    (kept : isSeparator typeLiteral c = false) :
    namesFrom typeLiteral held before (c :: rest) =
      namesFrom typeLiteral (held ++ [c]) c rest := by
  simp only [scanMarks, List.mem_cons, List.not_mem_nil, or_false, not_or] at ordinary
  have code : triviaLength (c :: rest) = 0 :=
    trivia_length_mark (by simp [isQuoteMark, ordinary]) (by simp [ordinary]) rest
  rw [namesFrom, segments_plain code (fun _ => kept) (by simp [opens, ordinary])
    (by simp [closes, ordinary]), ← push_all_append, namesFrom]

theorem names_separator {mark : Char} (separates : isSeparator typeLiteral mark = true) :
    namesFrom typeLiteral held before (mark :: rest) =
      (nameOf? held).toList ++ namesFrom typeLiteral [] mark rest := by
  rw [namesFrom, segments_separator separates, push_all_cons, List.append_nil, namesOf,
    List.filterMap_cons]
  cases nameOf? held <;> rfl

theorem names_end : namesFrom typeLiteral held before [] = (nameOf? held).toList := by
  rw [namesFrom, segmentsFrom, push_all_cons, List.append_nil, namesOf, List.filterMap_cons]
  cases nameOf? held <;> rfl

-- In a type the newline behind a line comment separates, so the comment ends a segment of its own.
theorem names_gap_part (part : GapPart) (void : Void held) :
    ∃ held', Void held' ∧ namesFrom typeLiteral held before (part.render ++ rest) =
      namesFrom typeLiteral held' (Text.lastAfter before part.render) rest := by
  cases part with
  | blank c white =>
      cases separates : isSeparator typeLiteral c with
      | true =>
          refine ⟨[], void_nil, ?_⟩
          rw [GapPart.render, List.singleton_append, names_separator separates, void_nameless void]
          rfl
      | false =>
          exact ⟨held ++ [c], void_append void (void_blank white),
            names_mark (blank_ordinary white) separates⟩
  | line body inside =>
      have shape : (GapPart.line body inside).render ++ rest =
          ('/' :: '/' :: body) ++ ('\n' :: rest) := by simp [GapPart.render]
      have last : Text.lastAfter before (GapPart.line body inside).render = '\n' := by
        simp [GapPart.render]
      rw [shape, last, names_trivia (.line inside)]
      cases separates : isSeparator typeLiteral '\n' with
      | true =>
          have nothing : dropComments (held ++ '/' :: '/' :: body) = [] := by
            rw [void, drop_comments_open inside]
          refine ⟨[], void_nil, ?_⟩
          rw [names_separator separates, name_of_nothing nothing]
          rfl
      | false =>
          refine ⟨held ++ ('/' :: '/' :: (body ++ ['\n'])), void_append void (void_line inside), ?_⟩
          rw [names_mark (by decide) separates]
          simp
  | block body inside =>
      exact ⟨held ++ _, void_append void (void_block inside), names_trivia (.block inside)⟩

theorem names_gap (gap : List GapPart) (void : Void held) :
    ∃ held', Void held' ∧
      namesFrom typeLiteral held before (gap.flatMap GapPart.render ++ rest) =
        namesFrom typeLiteral held' (Text.lastAfter before (gap.flatMap GapPart.render)) rest := by
  induction gap generalizing held before with
  | nil => exact ⟨held, void, rfl⟩
  | cons part gap ih =>
      rw [List.flatMap_cons, List.append_assoc, Text.last_after_append]
      obtain ⟨middle, void', first⟩ := names_gap_part part void
      obtain ⟨held', void'', second⟩ := ih void'
      exact ⟨held', void'', first.trans second⟩

/-- Text at which the segment at hand ends, with the names behind it. -/
def Ends (typeLiteral : Bool) (rest : Text) (names : List (String × Text)) : Prop :=
  Sealed rest ∧ ∀ held before,
    namesFrom typeLiteral held before rest = (nameOf? held).toList ++ names

theorem ends_nil : Ends typeLiteral [] [] := by
  refine ⟨fun c head => by simp at head, fun held before => ?_⟩
  rw [names_end, List.append_nil]

theorem ends_separator {mark : Char} (separates : isSeparator typeLiteral mark = true)
    (rest : Text) : Ends typeLiteral (mark :: rest) (namesFrom typeLiteral [] mark rest) := by
  refine ⟨?_, fun held before => names_separator separates⟩
  rintro c ⟨⟩
  simp only [isSeparator, Bool.or_eq_true, Bool.and_eq_true, beq_iff_eq] at separates
  rcases separates with rfl | ⟨_, rfl | rfl⟩ <;> decide

variable {names : List (String × Text)} {trailing : Text}

theorem names_blanks (ends : Ends typeLiteral rest names) (void : Void held)
    (white : ∀ c ∈ trailing, Text.isBlank c = true) :
    namesFrom typeLiteral held before (trailing ++ rest) = names := by
  induction trailing generalizing held before with
  | nil =>
      rw [List.nil_append, ends.2, void_nameless void]
      rfl
  | cons c trailing ih =>
      obtain ⟨held', void', step⟩ :=
        @names_gap_part typeLiteral before held (trailing ++ rest) (.blank c (white c (by simp))) void
      exact step.trans (ih void' fun d member => white d (by simp [member]))

-- White space behind a member stays in its segment until a newline separates, and then is void.
theorem names_trailing (member : Member typeLiteral) (ends : Ends typeLiteral rest names)
    (void : Void held) (blanks : Text) (white' : ∀ c ∈ blanks, Text.isBlank c = true)
    (white : ∀ c ∈ trailing, Text.isBlank c = true) :
    namesFrom typeLiteral (held ++ (member.render ++ blanks)) before (trailing ++ rest) =
      member.named?.toList ++ names := by
  induction trailing generalizing blanks before with
  | nil => rw [List.nil_append, ends.2, member_named member void white']
  | cons c trailing ih =>
      have blank := white c (by simp)
      have others : ∀ d ∈ trailing, Text.isBlank d = true := fun d member => white d (by simp [member])
      rw [List.cons_append]
      cases separates : isSeparator typeLiteral c with
      | true =>
          rw [names_separator separates, member_named member void white',
            names_blanks ends void_nil others]
      | false =>
          have more : ∀ d ∈ blanks ++ [c], Text.isBlank d = true := by
            intro d member
            rcases List.mem_append.mp member with member | member
            · exact white' d member
            · exact List.mem_singleton.mp member ▸ blank
          rw [names_mark (blank_ordinary blank) separates, List.append_assoc, List.append_assoc]
          exact ih (blanks ++ [c]) more others

theorem blanks_sealed (boundary : Sealed rest)
    (white : ∀ c ∈ trailing, Text.isBlank c = true) : Sealed (trailing ++ rest) := by
  cases trailing with
  | nil => exact boundary
  | cons c trailing =>
      rintro d ⟨⟩
      have blank := white c (by simp)
      exact ⟨Text.ne_of_class blank (by decide), Text.ne_of_class blank (by decide)⟩

theorem names_item (item : Item typeLiteral) (ends : Ends typeLiteral rest names) :
    namesFrom typeLiteral [] before (item.render ++ rest) =
      item.member.named?.toList ++ names := by
  have shape : item.render ++ rest =
      item.leading.flatMap GapPart.render ++ (item.member.render ++ (item.trailing ++ rest)) := by
    simp [Item.render]
  obtain ⟨held, void, gap⟩ := @names_gap typeLiteral before []
    (item.member.render ++ (item.trailing ++ rest)) item.leading void_nil
  have trailing := @names_trailing typeLiteral
    (Text.lastAfter (Text.lastAfter before (item.leading.flatMap GapPart.render)) item.member.render)
    held rest names item.trailing item.member ends void [] (by simp) item.white
  rw [shape, gap, names_pass (member_closed item.member _) (blanks_sealed ends.1 item.white)]
  simpa using trailing

theorem names_items (items : Items typeLiteral) (before : Char) :
    namesFrom typeLiteral [] before items.inside = items.members.filterMap Member.named? := by
  induction items generalizing before with
  | none => exact names_end
  | last item =>
      have named := @names_item typeLiteral before [] [] item ends_nil
      rw [List.append_nil, List.append_nil] at named
      rw [Items.inside, named, Items.members, List.filterMap_cons]
      cases item.member.named? <;> rfl
  | more item mark separates others ih =>
      rw [Items.inside, names_item item (ends_separator separates others.inside), ih,
        Items.members, List.filterMap_cons]
      cases item.member.named? <;> rfl

end Cuts

section Whole

variable {typeLiteral : Bool} {before : Char} {rest : Text}

theorem gap_closed (gap : List GapPart)
    (tail : ∀ before, Closed typeLiteral (fun _ => false) before rest) :
    Closed typeLiteral (fun _ => false) before (gap.flatMap GapPart.render ++ rest) := by
  induction gap generalizing before with
  | nil => exact tail before
  | cons part gap ih =>
      rw [List.flatMap_cons, List.append_assoc]
      cases part with
      | blank c white => exact closed_mark (blank_ordinary white) rfl ih
      | line body inside =>
          have ended := @closed_mark typeLiteral (fun _ => false)
            (Text.lastAfter before ('/' :: '/' :: body)) '\n' _ (by decide) rfl (@ih '\n')
          simpa [GapPart.render] using Closed.trivia (.line inside) ended
      | block body inside => exact .trivia (.block inside) ih

theorem item_closed (item : Item typeLiteral) (boundary : Sealed rest)
    (tail : ∀ before, Closed typeLiteral (fun _ => false) before rest) :
    Closed typeLiteral (fun _ => false) before (item.render ++ rest) := by
  have trailing : ∀ before, Closed typeLiteral (fun _ => false) before (item.trailing ++ rest) :=
    fun before => closed_text (fun c member => blank_ordinary (item.white c member))
      (fun _ _ => rfl) (tail _)
  have member : ∀ before, Closed typeLiteral (fun _ => false) before
      (item.member.render ++ (item.trailing ++ rest)) := fun before =>
    closed_append (closed_free (member_closed item.member before)) (trailing _)
      (blanks_sealed boundary item.white)
  rw [Item.render, List.append_assoc, List.append_assoc]
  exact gap_closed item.leading member

theorem separator_ordinary {mark : Char} (separates : isSeparator typeLiteral mark = true) :
    mark ∉ scanMarks := by
  simp only [isSeparator, Bool.or_eq_true, Bool.and_eq_true, beq_iff_eq] at separates
  rcases separates with rfl | ⟨_, rfl | rfl⟩ <;> decide

-- The braces of the literal close around any items: separators matter for the cuts only.
theorem items_closed (items : Items typeLiteral) (before : Char) :
    Closed typeLiteral (fun _ => false) before items.inside := by
  induction items generalizing before with
  | none => exact .nil
  | last item =>
      have closed := @item_closed typeLiteral before [] item (fun c head => by simp at head)
        fun _ => .nil
      rwa [List.append_nil] at closed
  | more item mark separates others ih =>
      exact item_closed item (ends_separator separates others.inside).1
        fun before => closed_mark (separator_ordinary separates) rfl (ih mark)

theorem find_closing_items (items : Items typeLiteral) :
    findClosing items.render 0 = .ok (some (items.inside.length + 1)) := by
  have pair : closerOf? '\x7b' = some '\x7d' := rfl
  have passes := @closing_passes false typeLiteral _ '\x7b' _ (by simp) (items_closed items '\x7b')
    [] '\x7d' 1 ['\x7d'] (closer_sealed pair [])
  have closing : ∀ before, closes false before '\x7d' = true := fun before => by simp [closes]
  rw [find_closing_scan (by rfl) pair]
  refine congrArg Except.ok (passes.trans ?_)
  rw [closing_close (closer_no_trivia pair []) (closing _)]
  simp [resume, Nat.add_comm]

theorem object_entries_items (items : Items typeLiteral) :
    objectEntries items.render 0 typeLiteral =
      .ok ((placed 1 (segmentsFrom typeLiteral 0 '\x7b' 0 items.inside)).filterMap
        fun segment => entryOf? segment.1 segment.2) := by
  have inside : Text.slice items.render 1 (items.inside.length + 1) = items.inside := by
    simp [Items.render, Text.slice]
  have opener : items.render[0]? = some '\x7b' := rfl
  simp [objectEntries, entriesBy, find_closing_items items, inside, opener, bind, Except.bind, pure,
    Except.pure]

/-- Reading the entries of a written literal gives its named members, in order. -/
theorem object_entries_render (items : Items typeLiteral) :
    ∃ entries, objectEntries items.render 0 typeLiteral = .ok entries ∧
      entries.map (fun entry => (entry.key, entry.value)) = items.members.filterMap Member.named? := by
  have names := names_items items '\x7b'
  rw [namesFrom, push_all_nil] at names
  exact ⟨_, object_entries_items items, (placed_names 1 _).trans names⟩

end Whole

end PatternInspector.Literal
