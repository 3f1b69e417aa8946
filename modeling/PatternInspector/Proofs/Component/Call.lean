import PatternInspector.Proofs.Component.Declaration
import PatternInspector.Proofs.Component.Gathering
import PatternInspector.Proofs.Finding.Tally
import PatternInspector.Proofs.Text.Takes

/-!
Calls of composables. A script contributes the names of its calls from left to right, and leaves out
those that it declares. A declaration is told by the keyword before the name, which is looked for a few
characters back only: with more than eight characters between keyword and name, a declaration counts as
a call.
-/
namespace PatternInspector.Component

open PatternInspector.Literal (ScanFault findClosing)
open PatternInspector.Text (Avoids Reader)
open PatternInspector.Text.Reader

section Calls

variable {content text rest : Text} {position start : Nat} {before : Option Char}

/-- Characters that make a name behind them a part of something else. -/
def joins (c : Char) : Bool := Text.isNamePart c || c == '.'

def CallAt (content : Text) (start : Nat) (name : Text) : Prop :=
  ∃ (composable : ComposableName) (spaces : Spaces) (left rest : Text),
    content = left ++ (composable.text ++ (spaces.text ++ '(' :: rest)) ∧ left.length = start ∧
    composable.text = name ∧ left.getLast?.any joins = false

def callText (name : ComposableName) (spaces : Spaces) : Text := name.text ++ (spaces.text ++ ['('])

theorem takes_composable_name :
    Takes composableName fun _ passed _ => ∃ name : ComposableName, passed = name.text := by
  refine takes_congr (takes_matched (takes_then (takes_chars "use".toList) fun _ =>
    takes_then (takes_char Text.isUpperLetter) fun _ => takes_many Text.isNamePart)) ?_
  intro _ passed _
  constructor
  · rintro ⟨_, _, rfl, rfl, _, more, rfl, ⟨capital, rfl, upper⟩, inside⟩
    exact ⟨⟨capital, more, upper, inside⟩, rfl⟩
  · rintro ⟨⟨capital, more, upper, inside⟩, rfl⟩
    exact ⟨_, _, rfl, rfl, [capital], more, rfl, ⟨capital, rfl, upper⟩, inside⟩

theorem takes_call : Takes composableCall fun before passed _ =>
    before.any joins = false ∧ ∃ name spaces, passed = callText name spaces := by
  refine takes_congr (takes_then (takes_not_after joins) fun _ =>
    takes_then takes_composable_name fun value => takes_then (takes_many Text.isBlank) fun _ =>
      takes_then (takes_single '(') fun _ => takes_pure value) ?_
  intro before passed _
  constructor
  · rintro ⟨_, _, rfl, ⟨rfl, alone⟩, _, _, rfl, ⟨name, rfl⟩, spaces, _, rfl, white, _, _, rfl, rfl, rfl⟩
    exact ⟨alone, name, ⟨spaces, white⟩, rfl⟩
  · rintro ⟨alone, name, spaces, rfl⟩
    exact ⟨[], _, rfl, ⟨rfl, alone⟩, name.text, _, rfl, ⟨name, rfl⟩, spaces.text, _, rfl,
      spaces.white, ['('], [], rfl, rfl, rfl⟩

theorem reads_call (alone : before.any joins = false) (name : ComposableName) (spaces : Spaces) :
    Reads composableCall before (callText name spaces) rest name.text := by
  have stop : Avoids Text.isNamePart (spaces.text ++ ['('] ++ rest) :=
    spaces_stop spaces (Text.avoids_cons (by decide) rest)
  have passes : (!before.any joins) = true := by
    rw [alone]
    rfl
  refine reads_past (reads_provided fun _ => passes) ?_
  refine reads_bind (reads_composable_name name stop) ?_
  refine reads_bind (reads_blanks spaces.white (Text.avoids_cons (by decide) rest)) ?_
  exact reads_then_pure (reads_single '(') _

theorem call_first {way : Text × Text.Cursor} :
    composableCall.first? ⟨position, before, text⟩ = some way ↔ before.any joins = false ∧
      ∃ name spaces rest, text = callText name spaces ++ rest ∧
        way = (name.text, Text.Cursor.behind position before (callText name spaces) rest) := by
  constructor
  · intro first
    have read : (composableCall.first? ⟨position, before, text⟩).isSome = true := by
      rw [first]
      rfl
    obtain ⟨_, rest, rfl, alone, name, spaces, rfl⟩ := (first_takes takes_call).mp read
    rw [reads_call alone name spaces position] at first
    exact ⟨alone, name, spaces, rest, rfl, (Option.some.inj first).symm⟩
  · rintro ⟨alone, name, spaces, rest, rfl, rfl⟩
    exact reads_call alone name spaces position

-- A place inside a call stands behind a part of the name, or before a blank or the parenthesis.
theorem call_inside {name : ComposableName} {spaces : Spaces} {c : Char} {left more : Text}
    (split : callText name spaces = c :: left ++ more)
    (alone : (Text.beforeEnd (some c) left).any joins = false) : more.head? ≠ some 'u' := by
  rcases List.append_eq_append_iff.mp split with ⟨behind, within, rest⟩ | ⟨ahead, within, -⟩
  · -- The name is passed, and perhaps some of the blanks.
    intro head
    have member : 'u' ∈ spaces.text ++ ['('] := by
      rw [rest]
      exact List.mem_append_right _ (List.mem_of_head? head)
    rcases List.mem_append.mp member with blank | mark
    · exact absurd (spaces.white 'u' blank) (by decide)
    · exact absurd mark (by decide)
  · have last : Text.beforeEnd (some c) left = (c :: left).getLast? := by
      rw [← Text.before_end_cons none, Text.before_end_last, Option.or_none]
    have member : (c :: left).getLast (List.cons_ne_nil c left) ∈ name.text := by
      rw [within]
      exact List.mem_append_left _ (List.getLast_mem _)
    rw [last, List.getLast?_eq_some_getLast (List.cons_ne_nil c left)] at alone
    simp [joins, name_parts name _ member] at alone

theorem calls_no_overlap : NoOverlap composableCall := by
  rintro position before c text way _ first ⟨left, right, way', rfl, -, second, rfl⟩
  obtain ⟨-, name, spaces, rest, split, rfl⟩ := call_first.mp first
  obtain ⟨alone, name', spaces', rest', rfl, -⟩ := call_first.mp second
  change position + (callText name spaces).length ≤ position + 1 + left.length
  by_contra short
  have split' : c :: left ++ (callText name' spaces' ++ rest') = callText name spaces ++ rest := split
  rcases List.append_eq_append_iff.mp split' with ⟨more, within, follows⟩ | ⟨more, within, -⟩
  · have nonempty : more ≠ [] := by
      rintro rfl
      have size := congrArg List.length within
      simp only [List.append_nil, List.length_cons] at size
      omega
    refine call_inside within alone ?_
    have head := congrArg List.head? follows
    rw [List.head?_append_of_ne_nil _ nonempty] at head
    exact head.symm
  · have size := congrArg List.length within
    simp only [List.length_append, List.length_cons] at size
    omega

def siteOf (found : Found Text) : Nat × Text := (found.start, found.value)

/-- Calls do not overlap, so all of them are found. -/
theorem call_found {name : Text} :
    (start, name) ∈ (findAll composableCall content).map siteOf ↔ CallAt content start name := by
  simp only [List.mem_map, mem_find_all calls_no_overlap]
  constructor
  · rintro ⟨_, ⟨left, right, way, rfl, -, first, rfl⟩, same⟩
    obtain ⟨alone, composable, spaces, rest, rfl, rfl⟩ := call_first.mp first
    obtain ⟨rfl, rfl⟩ := Prod.mk.inj same
    rw [Text.before_end_last, Option.or_none] at alone
    exact ⟨composable, spaces, left, rest, by simp [callText], (Nat.zero_add _).symm, rfl, alone⟩
  · rintro ⟨composable, spaces, left, rest, rfl, rfl, rfl, alone⟩
    have unjoined : (Text.beforeEnd none left).any joins = false := by
      rwa [Text.before_end_last, Option.or_none]
    have shape : composable.text ++ (spaces.text ++ '(' :: rest) =
        callText composable spaces ++ rest := by simp [callText]
    have nonempty : callText composable spaces ++ rest ≠ [] := by simp [callText]
    refine ⟨_, ⟨left, _, _, rfl, shape ▸ nonempty,
      shape ▸ reads_call unjoined composable spaces (0 + left.length), rfl⟩, ?_⟩
    rw [siteOf, Nat.zero_add]

end Calls

section Declarations

structure KeywordGap where
  before : Spaces
  starred : Bool
  after : Spaces

def KeywordGap.text (gap : KeywordGap) : Text :=
  gap.before.text ++ ((if gap.starred then ['*'] else []) ++ gap.after.text)

def DeclaredBy (content : Text) (start : Nat) (gap : KeywordGap) : Prop :=
  "function".toList ++ gap.text <:+ content.take start

variable {content text : Text} {start : Nat}

theorem takes_function_keyword : Takes functionKeywordAtEnd fun _ passed rest =>
    (∃ gap : KeywordGap, passed = "function".toList ++ gap.text) ∧ (rest = [] ∨ rest = ['\n']) := by
  have star := takes_or (takes_then (takes_single '*') fun value => takes_pure (some value))
    (takes_pure (none : Option Unit))
  refine takes_congr (takes_then (takes_chars "function".toList) fun _ =>
    takes_then (takes_many Text.isBlank) fun _ => takes_then star fun _ =>
      takes_then (takes_many Text.isBlank) fun _ => takes_at_end) ?_
  intro _ passed rest
  constructor
  · rintro ⟨_, _, rfl, rfl, before, _, rfl, white, mark, _, rfl, starred, after, _, rfl, white', rfl,
      ends⟩
    refine ⟨?_, ends⟩
    rcases starred with ⟨_, _, rfl, rfl, rfl⟩ | rfl
    · exact ⟨⟨⟨before, white⟩, true, ⟨after, white'⟩⟩, by simp [KeywordGap.text]⟩
    · exact ⟨⟨⟨before, white⟩, false, ⟨after, white'⟩⟩, by simp [KeywordGap.text]⟩
  · rintro ⟨⟨⟨before, starred, after⟩, rfl⟩, ends⟩
    refine ⟨_, _, rfl, rfl, before.text, _, rfl, before.white, if starred then ['*'] else [],
      after.text, rfl, ?_, after.text, [], by simp, after.white, rfl, ends⟩
    cases starred with
    | false => exact Or.inr rfl
    | true => exact Or.inl ⟨['*'], [], rfl, rfl, rfl⟩

-- The newline that may follow the keyword is one blank more.
theorem keyword_occurs : occurs functionKeywordAtEnd text = true ↔
    ∃ gap : KeywordGap, "function".toList ++ gap.text <:+ text := by
  rw [occurs_takes takes_function_keyword]
  constructor
  · rintro ⟨left, _, rest, rfl, ⟨gap, rfl⟩, rfl | rfl⟩
    · exact ⟨gap, left, by simp⟩
    · obtain ⟨before, starred, after, white⟩ := gap
      refine ⟨⟨before, starred, ⟨after ++ ['\n'], ?_⟩⟩, left, by simp [KeywordGap.text]⟩
      intro c member
      rcases List.mem_append.mp member with inside | last
      · exact white c inside
      · rw [List.mem_singleton.mp last]
        decide
  · rintro ⟨gap, left, rfl⟩
    exact ⟨left, _, [], by simp, ⟨gap, rfl⟩, Or.inl rfl⟩

theorem suffix_drop {ending : Text} {count : Nat} : ending <:+ text.drop count ↔
    ending <:+ text ∧ ending.length ≤ text.length - count := by
  constructor
  · intro suffix
    have size := suffix.length_le
    rw [List.length_drop] at size
    exact ⟨suffix.trans (List.drop_suffix count text), size⟩
  · rintro ⟨suffix, size⟩
    refine List.suffix_of_suffix_length_le suffix (List.drop_suffix count text) ?_
    rwa [List.length_drop]

/-- The keyword is found if no more than eight characters stand between it and the name. -/
theorem declared_at_iff (inside : start ≤ content.length) : isDeclaredAt content start = true ↔
    ∃ gap, DeclaredBy content start gap ∧ gap.text.length ≤ 8 := by
  have window : Text.slice content (start - keywordReach) start =
      (content.take start).drop (start - keywordReach) := by
    rw [Text.slice, List.drop_take]
  rw [isDeclaredAt, window, keyword_occurs]
  refine exists_congr fun gap => ?_
  rw [suffix_drop, DeclaredBy]
  refine and_congr_right fun suffix => ?_
  have size := suffix.length_le
  have word : "function".toList.length = 8 := rfl
  rw [List.length_append, word, List.length_take, Nat.min_eq_left inside] at size ⊢
  rw [keywordReach]
  omega

theorem gap_no_letter (gap : KeywordGap) : 'n' ∉ gap.text := by
  have dark : ∀ spaces : Spaces, 'n' ∉ spaces.text := fun spaces member =>
    absurd (spaces.white 'n' member) (by decide)
  intro member
  rcases List.mem_append.mp member with first | later
  · exact dark gap.before first
  rcases List.mem_append.mp later with star | last
  · cases starred : gap.starred <;> simp [starred] at star
  · exact dark gap.after last

-- A longer gap would hold the last letter of the keyword.
theorem gap_of_suffix {one two : KeywordGap}
    (suffix : "function".toList ++ one.text <:+ "function".toList ++ two.text) :
    one.text = two.text := by
  obtain ⟨front, split⟩ := suffix
  rw [← List.append_assoc] at split
  rcases List.append_eq_append_iff.mp split with ⟨more, word, same⟩ | ⟨more, word, same⟩
  · have size := congrArg List.length word
    simp only [List.length_append] at size
    obtain rfl : more = [] := List.eq_nil_of_length_eq_zero (by omega)
    exact same
  · rcases List.eq_nil_or_concat' more with rfl | ⟨others, c, rfl⟩
    · exact same.symm
    · have last := congrArg List.getLast? word
      rw [← List.append_assoc, List.getLast?_concat] at last
      obtain rfl : 'n' = c := by simpa using last
      refine absurd ?_ (gap_no_letter two)
      simp [same]

theorem gap_unique {one two : KeywordGap} (first : DeclaredBy content start one)
    (second : DeclaredBy content start two) : one.text = two.text := by
  rcases List.suffix_or_suffix_of_suffix first second with shorter | longer
  · exact gap_of_suffix shorter
  · exact (gap_of_suffix longer).symm

end Declarations

section Contributions

variable {content : Text} {sites : List (Nat × Text)}

/-- The calls in a script from left to right, but for those that are `declared`. -/
structure CallSites (content : Text) (declared : Nat → Prop) (sites : List (Nat × Text)) : Prop where
  ascending : sites.Pairwise fun one two => one.1 < two.1
  mem_iff : ∀ start name, (start, name) ∈ sites ↔ CallAt content start name ∧ ¬ declared start

def Declared (content : Text) (start : Nat) : Prop := ∃ gap, DeclaredBy content start gap

def DeclaredNear (content : Text) (start : Nat) : Prop :=
  ∃ gap, DeclaredBy content start gap ∧ gap.text.length ≤ 8

/-- Every composable that is declared has the keyword close by. -/
def WithinReach (content : Text) : Prop :=
  ∀ start name gap, CallAt content start name → DeclaredBy content start gap → gap.text.length ≤ 8

def contributed (content : Text) : List (Nat × Text) :=
  ((findAll composableCall content).map siteOf).filter fun site => !isDeclaredAt content site.1

theorem contributed_names (content : Text) :
    calledComposables content = (contributed content).map fun site => String.ofList site.2 := by
  unfold calledComposables contributed
  induction findAll composableCall content with
  | nil => rfl
  | cons found others ih =>
      rw [List.filterMap_cons, List.map_cons, List.filter_cons, siteOf]
      cases isDeclaredAt content found.start with
      | true => exact ih
      | false => exact congrArg _ ih

theorem call_within {start : Nat} {name : Text} (call : CallAt content start name) :
    start ≤ content.length := by
  obtain ⟨_, _, left, _, rfl, rfl, -, -⟩ := call
  rw [List.length_append]
  exact Nat.le_add_right _ _

theorem contributed_sites (content : Text) :
    CallSites content (DeclaredNear content) (contributed content) := by
  constructor
  · refine List.Pairwise.filter _ (List.pairwise_map.mpr ?_)
    exact search_all_ascending composableCall 0 none 0 content
  · intro start name
    rw [contributed, List.mem_filter, call_found]
    refine and_congr_right fun call => ?_
    rw [Bool.not_eq_true', ← Bool.not_eq_true, declared_at_iff (call_within call), DeclaredNear]

-- The same calls are left out exactly if no keyword is out of reach.
theorem sites_declared_iff (near : CallSites content (DeclaredNear content) sites) :
    CallSites content (Declared content) sites ↔ WithinReach content := by
  constructor
  · intro all start name gap call declared
    have absent : (start, name) ∉ sites := fun member =>
      ((all.mem_iff start name).mp member).2 ⟨gap, declared⟩
    have close : DeclaredNear content start := by
      by_contra far
      exact absent ((near.mem_iff start name).mpr ⟨call, far⟩)
    obtain ⟨gap', declared', short⟩ := close
    rwa [gap_unique declared declared']
  · intro reach
    refine ⟨near.ascending, fun start name => ?_⟩
    rw [near.mem_iff]
    refine and_congr_right fun call => not_congr ?_
    constructor
    · rintro ⟨gap, declared, -⟩
      exact ⟨gap, declared⟩
    · rintro ⟨gap, declared⟩
      exact ⟨gap, declared, reach start name gap call declared⟩

end Contributions

section Outlines

variable {outline next : Outline} {content : Text}

theorem add_script_composables (added : addScript findClosing content outline = .ok next) :
    next.composables = outline.composables ++ calledComposables content := by
  obtain ⟨props, -, added⟩ := ok_of_bind added
  obtain ⟨emits, -, added⟩ := ok_of_bind added
  obtain rfl := Except.ok.inj added
  rfl

theorem add_plain_composables (added : addPlain content outline = .ok next) :
    next.composables = outline.composables ++ calledComposables content := by
  obtain ⟨listed, scanned, merged⟩ := ok_of_bind added
  have called := add_script_composables scanned
  obtain ⟨_, _, _, _, _, _, _, _, rfl⟩ := add_options_same merged
  exact called

theorem taken_composables {add : Text → Outline → Except ScanFault Outline}
    (each : ∀ content, add content outline = .ok next →
      next.composables = outline.composables ++ calledComposables content)
    {block : Option Block} (taken : TakesOver add outline next block) :
    next.composables = outline.composables ++ calledComposables (contentOf block) := by
  cases block with
  | none =>
      obtain rfl : next = outline := taken
      exact (List.append_nil _).symm
  | some block => exact each block.content taken

theorem distinct_filter (keeps : String → Bool) (names : List String) :
    distinct (names.filter keeps) = (distinct names).filter keeps := by
  induction names with
  | nil => rfl
  | cons name names ih =>
      by_cases kept : keeps name = true
      · rw [List.filter_cons_of_pos kept, distinct, distinct, List.filter_cons_of_pos kept, ih,
          List.filter_comm]
      · rw [List.filter_cons_of_neg kept, distinct, List.filter_cons_of_neg kept, ih,
          List.filter_filter]
        refine List.filter_congr fun other _ => ?_
        by_cases same : other = name
        · simp [same, kept]
        · simp [same]

theorem distinct_first (names : List String) : distinct names = names.eraseDups := by
  match names with
  | [] => rfl
  | name :: names =>
      rw [List.eraseDups_cons, ← distinct_first (names.filter fun other => !other == name),
        distinct_filter]
      rfl
termination_by names.length
decreasing_by exact Nat.lt_succ_of_le (List.length_filter_le _ _)

/-- The composables of an outline are those that its scripts call, each at its first place. -/
theorem extract_composables (descriptor : Descriptor) :
    ∃ outline, extract descriptor = .ok outline ∧ outline.composables =
      (calledComposables (contentOf descriptor.script) ++
        calledComposables (contentOf descriptor.scriptSetup)).eraseDups := by
  obtain ⟨outline, -, extracted, -, -⟩ := extract_follows descriptor
  refine ⟨outline, extracted, ?_⟩
  obtain ⟨scanned, gathered, plain, setup, rfl⟩ := extract_steps extracted
  have first := taken_composables (fun _ => add_plain_composables) plain
  have second := taken_composables (fun _ => add_script_composables) setup
  rw [← distinct_first]
  change distinct gathered.composables = _
  rw [second, first]
  rfl

end Outlines

/-- A declaration is no call, as long as its keyword is close by; every call contributes its name, and
each name stands where it came first, the plain script before the setup script. -/
theorem calls_contribute (descriptor : Descriptor) :
    let script := contentOf descriptor.script
    let setup := contentOf descriptor.scriptSetup
    ∃ outline first second, extract descriptor = .ok outline ∧
      CallSites script (DeclaredNear script) first ∧ CallSites setup (DeclaredNear setup) second ∧
      outline.composables = ((first ++ second).map fun site => String.ofList site.2).eraseDups ∧
      outline.composables.Nodup ∧
      (CallSites script (Declared script) first ↔ WithinReach script) ∧
      (CallSites setup (Declared setup) second ↔ WithinReach setup) := by
  intro script setup
  obtain ⟨outline, extracted, composables⟩ := extract_composables descriptor
  have first := contributed_sites script
  have second := contributed_sites setup
  refine ⟨outline, contributed script, contributed setup, extracted, first, second, ?_, ?_,
    sites_declared_iff first, sites_declared_iff second⟩
  · rw [composables, contributed_names, contributed_names, List.map_append]
  · rw [composables]
    exact nodup_erase_dups _

def spacedScript : Text := "function         useA() \x7b\x7d".toList

/-- The keyword is out of reach, so the declaration counts as a call. -/
theorem spaced_declaration_called :
    CallAt spacedScript 17 "useA".toList ∧ Declared spacedScript 17 ∧
    ∃ outline, extract { filename := "A.vue", script := some ⟨"script", spacedScript, [], 0⟩ } =
      .ok outline ∧ outline.composables = ["useA"] := by
  have nine : ∀ c ∈ "         ".toList, Text.isBlank c = true := Text.each_of_all (by decide)
  refine ⟨?_, ?_, ?_⟩
  · exact ⟨⟨'A', [], by decide, by simp⟩, ⟨[], by simp⟩, "function         ".toList,
      ") \x7b\x7d".toList, rfl, rfl, rfl, rfl⟩
  · exact ⟨⟨⟨_, nine⟩, false, ⟨[], by simp⟩⟩, [], rfl⟩
  · obtain ⟨outline, extracted, composables⟩ := extract_composables
      { filename := "A.vue", script := some ⟨"script", spacedScript, [], 0⟩ }
    refine ⟨outline, extracted, composables.trans ?_⟩
    decide +kernel

end PatternInspector.Component
