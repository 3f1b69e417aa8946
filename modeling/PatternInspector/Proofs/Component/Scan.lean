import PatternInspector.Component.Report
import PatternInspector.Proofs.Literal.Group
import PatternInspector.Proofs.Text.Search

/-!
Scans of a component's scripts, watched. The analysis is run with a scanner that notes what it is asked
for: it gives the same result, and every scan that it asks for starts at an opening bracket, because
every pattern that hands over a position ends with one. So the analysis of a component always gives a
result.
-/
namespace PatternInspector.Component

open PatternInspector.Text (Reader)
open PatternInspector.Text.Reader
open PatternInspector.Literal (ScanFault Entry Closing closerOf? findClosing entriesBy entryKeys)

section Watching

variable {α β : Type}

structure Scan where
  text : Text
  index : Nat

/-- Computations that note the scans they ask for, in order. -/
abbrev Noting := StateT (List Scan) (Except ScanFault)

def noted : Closing Noting := fun text index scans =>
  (findClosing text index).map fun found => (found, scans ++ [⟨text, index⟩])

def isOpener (c : Char) : Bool := (closerOf? c).isSome

def Scan.OpensGroup (scan : Scan) : Prop :=
  ∃ c, scan.text[scan.index]? = some c ∧ isOpener c = true

/-- Both computations give the same value, and the scans noted on the way start at openers. -/
def Follows (watched : Noting α) (plain : Except ScanFault α) : Prop :=
  ∃ value scans, plain = .ok value ∧ (∀ before, watched before = .ok (value, before ++ scans)) ∧
    ∀ scan ∈ scans, scan.OpensGroup

theorem follows_pure (value : α) : Follows (pure value) (pure value) := by
  refine ⟨value, [], rfl, ?_, by simp⟩
  intro before
  rw [List.append_nil]
  rfl

theorem follows_bind {watched : Noting α} {plain : Except ScanFault α} {next : α → Noting β}
    {next' : α → Except ScanFault β} (first : Follows watched plain)
    (second : ∀ value, plain = .ok value → Follows (next value) (next' value)) :
    Follows (watched >>= next) (plain >>= next') := by
  obtain ⟨value, scans, given, run, opens⟩ := first
  obtain ⟨result, more, given', run', opens'⟩ := second value given
  refine ⟨result, scans ++ more, ?_, ?_, ?_⟩
  · rw [given]
    exact given'
  · intro before
    change (watched before >>= fun way => next way.1 way.2) = _
    rw [run before, ← List.append_assoc]
    exact run' (before ++ scans)
  · intro scan member
    rcases List.mem_append.mp member with early | late
    · exact opens scan early
    · exact opens' scan late

theorem follows_map {watched : Noting α} {plain : Except ScanFault α} (f : α → β)
    (first : Follows watched plain) :
    Follows (watched >>= fun value => pure (f value)) (plain >>= fun value => pure (f value)) :=
  follows_bind first fun value _ => follows_pure (f value)

theorem follows_each {f : α → Noting β} {f' : α → Except ScanFault β} {items : List α}
    (each : ∀ item ∈ items, Follows (f item) (f' item)) :
    Follows (items.mapM f) (items.mapM f') := by
  induction items with
  | nil => exact follows_pure []
  | cons item items ih =>
      rw [List.mapM_cons, List.mapM_cons]
      refine follows_bind (each item (by simp)) fun value _ => ?_
      exact follows_map _ (ih fun other member => each other (by simp [member]))

theorem follows_fold {f : β → α → Noting β} {f' : β → α → Except ScanFault β}
    (each : ∀ state item, Follows (f state item) (f' state item)) (items : List α) (state : β) :
    Follows (items.foldlM f state) (items.foldlM f' state) := by
  induction items generalizing state with
  | nil => exact follows_pure state
  | cons item items ih =>
      rw [List.foldlM_cons, List.foldlM_cons]
      exact follows_bind (each state item) fun next _ => ih next

end Watching

section Openers

variable {text : Text} {index : Nat} {c : Char}

theorem closing_follows (present : text[index]? = some c) (opening : isOpener c = true) :
    Follows (noted text index) (findClosing text index) := by
  have opens : Scan.OpensGroup ⟨text, index⟩ := ⟨c, present, opening⟩
  obtain ⟨inside, rfl⟩ := List.getElem?_eq_some_iff.mp present
  obtain ⟨closer, pair⟩ := Option.isSome_iff_exists.mp opening
  have scanned := Literal.find_closing_scan (List.drop_eq_getElem_cons inside) pair
  refine ⟨_, [⟨text, index⟩], scanned, ?_, List.forall_mem_singleton.mpr opens⟩
  intro before
  rw [noted, scanned]
  rfl

theorem entries_follow (typeLiteral : Bool) (present : text[index]? = some c)
    (opening : isOpener c = true) :
    Follows (entriesBy noted text index typeLiteral)
      (entriesBy findClosing text index typeLiteral) := by
  refine follows_bind (closing_follows present opening) fun found _ => ?_
  cases found with
  | none => exact follows_pure _
  | some close => exact follows_pure _

theorem entry_keys_follow (typeLiteral : Bool) (present : text[index]? = some c)
    (opening : isOpener c = true) :
    Follows (entryKeys noted text index typeLiteral)
      (entryKeys findClosing text index typeLiteral) :=
  follows_map _ (entries_follow typeLiteral present opening)

-- A group holds at least its opener, so the slice of a group starts with it.
theorem group_slice_starts (present : text[index]? = some c) (opening : isOpener c = true)
    {close : Nat} (closed : findClosing text index = .ok (some close)) :
    (Text.slice text index (close + 1))[0]? = some c := by
  obtain ⟨inside, rfl⟩ := List.getElem?_eq_some_iff.mp present
  obtain ⟨closer, pair⟩ := Option.isSome_iff_exists.mp opening
  have behind := List.drop_eq_getElem_cons inside
  rw [Literal.find_closing_scan behind pair, Except.ok.injEq,
    Literal.closing_iff_group behind pair, Literal.group_at_iff behind] at closed
  obtain ⟨inner, _, _, _, rfl, _⟩ := closed
  have size : index + 1 + inner.length + 1 - index = inner.length + 1 + 1 := by omega
  rw [Text.slice, behind, size]
  rfl

theorem found_ends {α : Type} {accepts : Char → Bool} {found : Found α}
    (place : FoundIn (fun read _ => ∃ left c, read = left ++ [c] ∧ accepts c = true) 0 text found) :
    ∃ c, text[found.stop - 1]? = some c ∧ accepts c = true := by
  obtain ⟨left, _, right, rfl, ⟨inner, c, rfl, accepted⟩, start, stop⟩ := place
  refine ⟨c, ?_, accepted⟩
  have last : found.stop - 1 = (left ++ inner).length := by
    simp only [List.length_append, List.length_singleton] at stop ⊢
    omega
  have shape : left ++ (inner ++ [c] ++ right) = (left ++ inner) ++ c :: right := by simp
  rw [last, shape, List.getElem?_append_right (Nat.le_refl _), Nat.sub_self]
  rfl

end Openers

section Patterns

instance (name : String) : Advances (keyword name) := by
  unfold keyword
  infer_instance

instance : Advances exportMark := by
  unfold exportMark
  infer_instance

instance : Advances composableName := by
  unfold composableName
  infer_instance

theorem function_head_ends : EndsWith isOpener functionHead :=
  ends_after fun _ => ends_after fun _ => ends_after fun _ => ends_after fun _ => ends_after fun _ =>
    ends_after fun _ => ends_after fun _ => ends_after fun _ => ends_then_pure (ends_single rfl) _

theorem arrow_head_ends : EndsWith isOpener arrowHead :=
  ends_after fun _ => ends_after fun _ => ends_after fun _ => ends_after fun _ => ends_after fun _ =>
    ends_after fun _ => ends_after fun _ => ends_after fun _ => ends_then_pure (ends_single rfl) _

theorem macro_call_ends (name : String) :
    EndsWith (fun c => ['<', '[', '\x7b'].contains c) (macroCall name) := by
  refine ends_after fun _ => ends_after fun _ => ends_or (ends_single rfl) ?_
  refine ends_after fun _ => ends_after fun _ => ends_then_pure (ends_char fun c given => ?_) _
  simp only [Bool.or_eq_true, beq_iff_eq] at given
  rcases given with rfl | rfl <;> rfl

theorem type_declaration_ends (name : Text) : EndsWith isOpener (typeDeclaration name) :=
  ends_after fun _ => ends_single rfl

theorem export_default_ends : EndsWith isOpener exportDefault :=
  ends_after fun _ => ends_after fun _ => ends_after fun _ => ends_after fun _ => ends_after fun _ =>
    ends_single rfl

theorem returned_object_ends : EndsWith isOpener returnedObject :=
  ends_or (ends_after fun _ => ends_after fun _ => ends_single rfl)
    (ends_after fun _ => ends_after fun _ => ends_after fun _ => ends_after fun _ => ends_single rfl)

end Patterns

section Macros

variable {content : Text}

theorem starts_at {text : Text} {c : Char} (starts : (text.head? == some c) = true) :
    text[0]? = some c := by
  rw [← List.head?_eq_getElem?]
  exact eq_of_beq starts

theorem type_literal_keys_follow (isEmits : Bool) {literal : Text} {c : Char}
    (starts : literal[0]? = some c) (opening : isOpener c = true) :
    Follows (typeLiteralKeys noted isEmits literal)
      (typeLiteralKeys findClosing isEmits literal) := by
  unfold typeLiteralKeys
  extract_lets events
  split
  next => exact entry_keys_follow true starts opening
  next => exact follows_pure _

theorem type_argument_keys_follow (content : Text) (isEmits : Bool) (argument : Text) :
    Follows (typeArgumentKeys noted content isEmits argument)
      (typeArgumentKeys findClosing content isEmits argument) := by
  unfold typeArgumentKeys
  split
  next starts => exact type_literal_keys_follow isEmits (starts_at starts) rfl
  next =>
    split
    next => exact follows_pure _
    next name _ _ =>
      split
      next => exact follows_pure _
      next declaration searched =>
        obtain ⟨c, present, opening⟩ :=
          found_ends (search_found (type_declaration_ends name) searched)
        refine follows_bind (closing_follows present opening) fun found closed => ?_
        cases found with
        | none => exact follows_pure _
        | some close =>
            have starts := group_slice_starts present opening closed
            exact type_literal_keys_follow isEmits starts opening

theorem macro_keys_follow (name : String) (isEmits : Bool) {found : Found Unit}
    (member : found ∈ findAll (macroCall name) content) :
    Follows (macroKeys noted content isEmits found)
      (macroKeys findClosing content isEmits found) := by
  obtain ⟨c, present, bracket⟩ := found_ends (find_all_found (macro_call_ends name) member)
  have opening : isOpener c = true := by
    have all : ∀ d ∈ ['<', '[', '\x7b'], isOpener d = true := Text.each_of_all (by decide)
    exact all c (by simpa using bracket)
  unfold macroKeys
  dsimp only
  split
  next =>
    refine follows_bind (closing_follows present opening) fun found _ => ?_
    cases found with
    | none => exact follows_pure _
    | some close => exact type_argument_keys_follow content isEmits _
  next =>
    split
    next =>
      refine follows_bind (closing_follows present opening) fun found _ => ?_
      cases found with
      | none => exact follows_pure _
      | some close => exact follows_pure _
    next => exact entry_keys_follow false present opening

theorem macro_names_follow (content : Text) (name : String) (isEmits : Bool) :
    Follows (macroNames noted content name isEmits) (macroNames findClosing content name isEmits) :=
  follows_map _ (follows_each fun _ member => macro_keys_follow name isEmits member)

end Macros

section Options

theorem nested_keys_follow (value : Text) :
    Follows (nestedKeys noted value) (nestedKeys findClosing value) := by
  unfold nestedKeys
  split
  next starts => exact entry_keys_follow false (starts_at starts) rfl
  next => exact follows_pure _

theorem array_names_follow (value : Text) :
    Follows (arrayNames noted value) (arrayNames findClosing value) := by
  unfold arrayNames
  split
  next starts =>
    exact follows_bind (closing_follows (starts_at starts) rfl) fun _ _ => follows_pure _
  next => exact follows_pure _

theorem declared_names_follow (value : Text) :
    Follows (declaredNames noted value) (declaredNames findClosing value) := by
  unfold declaredNames
  split
  next starts =>
    refine follows_bind (closing_follows (starts_at starts) rfl) fun found _ => ?_
    cases found with
    | none => exact follows_pure _
    | some close => exact follows_pure _
  next => exact nested_keys_follow value

theorem data_keys_follow (value : Text) :
    Follows (dataKeys noted value) (dataKeys findClosing value) := by
  unfold dataKeys
  split
  next => exact follows_pure _
  next found searched =>
    obtain ⟨c, present, opening⟩ := found_ends (search_found returned_object_ends searched)
    exact entry_keys_follow false present opening

theorem add_option_follows (outline : Outline) (entry : Entry) :
    Follows (addOption noted outline entry) (addOption findClosing outline entry) := by
  unfold addOption
  split
  next => exact follows_map _ (array_names_follow entry.value)
  next => exact follows_map _ (nested_keys_follow entry.value)
  next => exact follows_map _ (data_keys_follow entry.value)
  next => exact follows_map _ (nested_keys_follow entry.value)
  next => exact follows_map _ (nested_keys_follow entry.value)
  next => exact follows_map _ (nested_keys_follow entry.value)
  next =>
    split
    next => exact follows_map _ (declared_names_follow entry.value)
    next => exact follows_pure _
  next =>
    split
    next => exact follows_map _ (declared_names_follow entry.value)
    next => exact follows_pure _
  next => exact follows_pure _

theorem add_options_follows (script : Text) (outline : Outline) :
    Follows (addOptions noted script outline) (addOptions findClosing script outline) := by
  unfold addOptions
  split
  next => exact follows_pure _
  next found searched =>
    obtain ⟨c, present, opening⟩ := found_ends (search_found export_default_ends searched)
    exact follows_bind (entries_follow false present opening) fun entries _ =>
      follows_fold add_option_follows entries outline

theorem add_script_follows (content : Text) (outline : Outline) :
    Follows (addScript noted content outline) (addScript findClosing content outline) :=
  follows_bind (macro_names_follow content _ _) fun _ _ =>
    follows_map _ (macro_names_follow content _ _)

theorem extract_follows (descriptor : Descriptor) :
    Follows (extractBy noted descriptor) (extractBy findClosing descriptor) := by
  unfold extractBy
  cases descriptor.script with
  | none =>
      cases descriptor.scriptSetup with
      | none => exact follows_pure _
      | some setup => exact follows_map _ (add_script_follows setup.content _)
  | some script =>
      refine follows_bind (add_script_follows script.content _) fun outline _ => ?_
      refine follows_bind (add_options_follows script.content outline) fun extended _ => ?_
      cases descriptor.scriptSetup with
      | none => exact follows_pure _
      | some setup => exact follows_map _ (add_script_follows setup.content extended)

end Options

section Functions

theorem function_parts_follow {content : Text} {index : Nat} {c : Char}
    (present : content[index]? = some c) (opening : isOpener c = true) :
    Follows (functionParts noted content index) (functionParts findClosing content index) := by
  refine follows_bind (closing_follows present opening) fun found _ => ?_
  cases found with
  | none => exact follows_pure _
  | some close =>
      dsimp only
      split
      next => exact follows_pure _
      next distance searched =>
        have brace : content[close + distance]? = some '\x7b' := by
          obtain ⟨after, split⟩ := Text.find_sound searched
          rw [List.drop_drop] at split
          rw [← List.head?_drop, ← split]
          rfl
        refine follows_bind (closing_follows brace rfl) fun found _ => ?_
        cases found with
        | none => exact follows_pure _
        | some bodyEnd => exact follows_pure _

theorem insert_by_start_member {found other : Found DefinitionHead}
    {heads : List (Found DefinitionHead)} (member : other ∈ insertByStart found heads) :
    other = found ∨ other ∈ heads := by
  induction heads with
  | nil => exact Or.inl (List.mem_singleton.mp member)
  | cons first heads ih =>
      rw [insertByStart] at member
      split at member
      next => exact List.mem_cons.mp member
      next =>
        rcases List.mem_cons.mp member with rfl | later
        · exact Or.inr List.mem_cons_self
        · exact (ih later).imp_right (List.mem_cons_of_mem first)

-- Sorting the heads of arrow functions into the others keeps them all and adds none.
theorem definition_heads_found {content : Text} {found : Found DefinitionHead}
    (member : found ∈ definitionHeads content) :
    found ∈ findAll functionHead content ∨ found ∈ findAll arrowHead content := by
  unfold definitionHeads at member
  generalize findAll functionHead content = heads at member ⊢
  generalize findAll arrowHead content = arrows at member ⊢
  induction arrows generalizing heads with
  | nil => exact Or.inl member
  | cons arrow arrows ih =>
      rcases ih _ member with earlier | later
      · rcases insert_by_start_member earlier with rfl | earlier
        · exact Or.inr List.mem_cons_self
        · exact Or.inl earlier
      · exact Or.inr (List.mem_cons_of_mem arrow later)

theorem definitions_follow (content : Text) :
    Follows (definitionsBy noted content) (definitionsBy findClosing content) := by
  refine follows_each fun found member => ?_
  have place := (definition_heads_found member).elim
    (fun function => found_ends (find_all_found function_head_ends function))
    (fun arrow => found_ends (find_all_found arrow_head_ends arrow))
  obtain ⟨c, present, opening⟩ := place
  exact follows_map _ (function_parts_follow present opening)

theorem analyze_follows (descriptor : Descriptor) :
    Follows (analyzeBy noted descriptor) (analyzeBy findClosing descriptor) :=
  follows_bind (extract_follows descriptor) fun _ _ => follows_map _ (definitions_follow _)

theorem analyze_succeeds (descriptor : Descriptor) :
    ∃ analysis, analyzeBy findClosing descriptor = .ok analysis := by
  obtain ⟨analysis, scans, given, run, opens⟩ := analyze_follows descriptor
  exact ⟨analysis, given⟩

theorem validate_follows (rules : Rules) (code : Text) (filename : String) :
    Follows (validateBy noted rules code filename) (validateBy findClosing rules code filename) := by
  unfold validateBy
  cases split code filename with
  | error fault => exact follows_pure _
  | ok descriptor => exact follows_map _ (analyze_follows descriptor)

end Functions

end PatternInspector.Component
