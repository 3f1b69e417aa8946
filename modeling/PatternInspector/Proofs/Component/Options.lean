import PatternInspector.Proofs.Component.Gathering
import PatternInspector.Proofs.Literal.Nesting
import PatternInspector.Proofs.Literal.Position
import PatternInspector.Proofs.Literal.Rendering

/-!
The options object in any order. Every list of an outline is filled by the member of one name, and
members with different names fill different lists, so the outline depends on which members there are
and not on the order in which they stand.
-/
namespace PatternInspector.Component

open PatternInspector.Text (Reader)
open PatternInspector.Text.Reader
open PatternInspector.Literal (ScanFault Closed Entry GapPart Items Member findClosing objectEntries)

section Lists

inductive OptionList where
  | mixins
  | filters
  | data
  | methods
  | computed
  | watch
  | props
  | emits
  deriving DecidableEq

namespace OptionList

def key : OptionList → String
  | mixins => "mixins"
  | filters => "filters"
  | data => "data"
  | methods => "methods"
  | computed => "computed"
  | watch => "watch"
  | props => "props"
  | emits => "emits"

def of (outline : Outline) : OptionList → List String
  | mixins => outline.mixins
  | filters => outline.filters
  | data => outline.data
  | methods => outline.methods
  | computed => outline.computed
  | watch => outline.watch
  | props => outline.props
  | emits => outline.emits

/-- Lists that a macro may have filled before; the member then adds nothing. -/
def isSettled (outline : Outline) (list : OptionList) : Bool :=
  (list == props || list == emits) && !(list.of outline).isEmpty

def extended (outline : Outline) (list : OptionList) (names : List String) : List String :=
  if list.isSettled outline then list.of outline else list.of outline ++ names

def declared (value : Text) : OptionList → Except ScanFault (List String)
  | mixins => arrayNames findClosing value
  | data => dataKeys findClosing value
  | props | emits => declaredNames findClosing value
  | filters | methods | computed | watch => nestedKeys findClosing value

/-- The names that the list's member declares among the given members, none if it is missing. -/
def declaredBy (members : List (String × Text)) (list : OptionList) :
    Except ScanFault (List String) :=
  match members.lookup list.key with
  | none => .ok []
  | some value => list.declared value

theorem key_injective : ∀ one two : OptionList, one.key = two.key → one = two := by
  intro one two
  cases one <;> cases two <;> decide

end OptionList

def Outline.extendedBy (outline : Outline) (names : OptionList → List String) : Outline :=
  { outline with
    mixins := OptionList.mixins.extended outline (names .mixins)
    filters := OptionList.filters.extended outline (names .filters)
    data := OptionList.data.extended outline (names .data)
    methods := OptionList.methods.extended outline (names .methods)
    computed := OptionList.computed.extended outline (names .computed)
    watch := OptionList.watch.extended outline (names .watch)
    props := OptionList.props.extended outline (names .props)
    emits := OptionList.emits.extended outline (names .emits) }

variable {outline : Outline} {list : OptionList}

@[simp] theorem extended_nil (outline : Outline) (list : OptionList) :
    list.extended outline [] = list.of outline := by
  rw [OptionList.extended, List.append_nil, ite_self]

theorem extended_settled (settled : list.isSettled outline = true) (names : List String) :
    list.extended outline names = list.of outline :=
  if_pos settled

@[simp] theorem of_extended_by (outline : Outline) (names : OptionList → List String)
    (list : OptionList) : list.of (outline.extendedBy names) = list.extended outline (names list) := by
  cases list <;> rfl

theorem extended_by_nothing {names : OptionList → List String}
    (idle : ∀ list : OptionList, list.extended outline (names list) = list.of outline) :
    outline.extendedBy names = outline := by
  simp only [Outline.extendedBy, idle]
  rfl

theorem extended_same {one two : Outline} (same : list.of one = list.of two) (names : List String) :
    list.extended one names = list.extended two names := by
  rw [OptionList.extended, OptionList.extended, OptionList.isSettled, OptionList.isSettled, same]

theorem extended_by_twice {first later names : OptionList → List String}
    (joined : ∀ list : OptionList,
      list.extended (outline.extendedBy first) (later list) = list.extended outline (names list)) :
    (outline.extendedBy first).extendedBy later = outline.extendedBy names := by
  rw [Outline.extendedBy]
  simp only [joined]
  rfl

theorem declared_succeeds (value : Text) (list : OptionList) :
    ∃ names, list.declared value = .ok names := by
  have given : ∀ {watched : Noting (List String)} {plain}, Follows watched plain →
      ∃ names, plain = .ok names := by
    rintro watched plain ⟨names, -, found, -⟩
    exact ⟨names, found⟩
  cases list with
  | mixins => exact given (array_names_follow value)
  | data => exact given (data_keys_follow value)
  | props | emits => exact given (declared_names_follow value)
  | filters | methods | computed | watch => exact given (nested_keys_follow value)

end Lists

section Steps

variable {outline : Outline} {entry : Entry} {list : OptionList} {names : List String}

def onlyFor (list : OptionList) (names : List String) : OptionList → List String :=
  fun other => if other = list then names else []

theorem add_option_settled (keyed : entry.key = list.key) (settled : list.isSettled outline = true) :
    addOption findClosing outline entry = .ok outline := by
  have filled : (list.of outline).isEmpty = false := by
    simpa using (Bool.and_eq_true_iff.mp settled).2
  cases list with
  | props | emits => simp_all [addOption, OptionList.key, OptionList.of, pure, Except.pure]
  | mixins | filters | data | methods | computed | watch => cases settled

theorem add_option_open (keyed : entry.key = list.key) (unsettled : list.isSettled outline = false)
    (given : list.declared entry.value = .ok names) :
    addOption findClosing outline entry = .ok (outline.extendedBy (onlyFor list names)) := by
  cases list <;> simp only [OptionList.key, OptionList.declared] at keyed given <;>
    simp only [addOption, keyed, given, Outline.extendedBy, onlyFor]
  case props | emits =>
    have empty := by simpa [OptionList.isSettled, OptionList.of] using unsettled
    simp [OptionList.of, OptionList.extended, OptionList.isSettled, empty, bind, Except.bind, pure,
      Except.pure]
  all_goals
    simp [OptionList.of, OptionList.extended, OptionList.isSettled, bind, Except.bind, pure,
      Except.pure]

-- The match on the key has one branch for each list.
theorem add_option_unknown (unknown : ∀ list : OptionList, entry.key ≠ list.key) :
    addOption findClosing outline entry = .ok outline := by
  unfold addOption
  split
  case h_9 => rfl
  case h_1 keyed => exact absurd keyed (unknown .mixins)
  case h_2 keyed => exact absurd keyed (unknown .filters)
  case h_3 keyed => exact absurd keyed (unknown .data)
  case h_4 keyed => exact absurd keyed (unknown .methods)
  case h_5 keyed => exact absurd keyed (unknown .computed)
  case h_6 keyed => exact absurd keyed (unknown .watch)
  case h_7 keyed => exact absurd keyed (unknown .props)
  case h_8 keyed => exact absurd keyed (unknown .emits)

/-- A member extends the list of its name and no other. -/
theorem add_option_lists (outline : Outline) (entry : Entry) :
    ∃ names : OptionList → List String,
      (∀ list : OptionList, entry.key ≠ list.key → names list = []) ∧
      (∀ list : OptionList, entry.key = list.key → list.declared entry.value = .ok (names list)) ∧
      addOption findClosing outline entry = .ok (outline.extendedBy names) := by
  by_cases known : ∃ list : OptionList, entry.key = list.key
  · obtain ⟨list, keyed⟩ := known
    obtain ⟨given, declared⟩ := declared_succeeds entry.value list
    refine ⟨onlyFor list given, fun other differs => ?_, fun other same => ?_, ?_⟩
    · refine if_neg fun own => differs ?_
      rw [own, keyed]
    · obtain rfl := OptionList.key_injective other list (same.symm.trans keyed)
      rw [declared, onlyFor, if_pos rfl]
    · cases settled : list.isSettled outline with
      | false => exact add_option_open keyed settled declared
      | true =>
          rw [add_option_settled keyed settled, extended_by_nothing]
          intro other
          unfold onlyFor
          split
          next own => rw [own, extended_settled settled]
          next => rw [extended_nil]
  · have unknown : ∀ list : OptionList, entry.key ≠ list.key := fun list same => known ⟨list, same⟩
    refine ⟨fun _ => [], fun _ _ => rfl, fun list same => absurd same (unknown list), ?_⟩
    rw [add_option_unknown unknown, extended_by_nothing (extended_nil outline)]

end Steps

section Runs

variable {members others : List (String × Text)} {key : String}

theorem lookup_member (distinct : (members.map Prod.fst).Nodup) (value : Text) :
    members.lookup key = some value ↔ (key, value) ∈ members := by
  induction members with
  | nil => simp
  | cons first members ih =>
      obtain ⟨name, given⟩ := first
      obtain ⟨fresh, distinct⟩ := List.nodup_cons.mp distinct
      rw [List.lookup_cons]
      by_cases same : key = name
      · subst same
        have absent : (key, value) ∉ members := by
          intro member
          exact fresh (List.mem_map.mpr ⟨(key, value), member, rfl⟩)
        simp [absent, eq_comm]
      · have differs : (key == name) = false := beq_eq_false_iff_ne.mpr same
        simp [differs, same, ih distinct]

theorem lookup_unordered (permuted : members.Perm others)
    (distinct : (members.map Prod.fst).Nodup) (key : String) :
    members.lookup key = others.lookup key := by
  have distinct' := (permuted.map Prod.fst).nodup_iff.mp distinct
  refine Option.ext fun value => ?_
  rw [lookup_member distinct, lookup_member distinct', permuted.mem_iff]

def namedBy (entry : Entry) : String × Text := (entry.key, entry.value)

variable {list : OptionList} {entry : Entry} {entries : List Entry}

theorem declared_by_own (own : entry.key = list.key) :
    list.declaredBy (namedBy entry :: members) = list.declared entry.value := by
  simp [OptionList.declaredBy, namedBy, own]

theorem declared_by_other (other : entry.key ≠ list.key) :
    list.declaredBy (namedBy entry :: members) = list.declaredBy members := by
  have differs : (list.key == entry.key) = false := beq_eq_false_iff_ne.mpr other.symm
  simp only [OptionList.declaredBy, namedBy, List.lookup_cons, differs]

theorem declared_by_none (absent : list.key ∉ members.map Prod.fst) :
    list.declaredBy members = .ok [] := by
  have none : members.lookup list.key = none := by
    refine List.lookup_eq_none_iff.mpr fun member present => ?_
    refine bne_iff_ne.mpr fun same => absent ?_
    rw [same]
    exact List.mem_map_of_mem present
  rw [OptionList.declaredBy, none]

/-- The members of an options object leave in each list what the list's own member declares. -/
theorem fold_options_lists (distinct : ((entries.map namedBy).map Prod.fst).Nodup)
    (outline : Outline) :
    ∃ names : OptionList → List String,
      (∀ list : OptionList, list.declaredBy (entries.map namedBy) = .ok (names list)) ∧
      entries.foldlM (addOption findClosing) outline = .ok (outline.extendedBy names) := by
  induction entries generalizing outline with
  | nil =>
      refine ⟨fun _ => [], fun _ => rfl, ?_⟩
      rw [extended_by_nothing (extended_nil outline)]
      rfl
  | cons entry entries ih =>
      obtain ⟨fresh, distinct⟩ := List.nodup_cons.mp distinct
      obtain ⟨first, others, own, added⟩ := add_option_lists outline entry
      obtain ⟨later, declared, run⟩ := ih distinct (outline.extendedBy first)
      refine ⟨fun list => if entry.key = list.key then first list else later list, fun list => ?_, ?_⟩
      · rw [List.map_cons]
        dsimp only
        split
        next keyed => rw [declared_by_own keyed, own list keyed]
        next other => rw [declared_by_other other, declared list]
      · rw [List.foldlM_cons, added]
        refine run.trans (congrArg Except.ok (extended_by_twice fun list => ?_))
        split
        next keyed =>
          -- No later member has this name, so the list stays as the first one left it.
          have absent : list.key ∉ (entries.map namedBy).map Prod.fst := keyed ▸ fresh
          have nothing : later list = [] :=
            Except.ok.inj ((declared list).symm.trans (declared_by_none absent))
          rw [nothing, extended_nil, of_extended_by]
        next other =>
          have same : list.of (outline.extendedBy first) = list.of outline := by
            rw [of_extended_by, others list other, extended_nil]
          exact extended_same same (later list)

end Runs

section Scripts

variable {members others : List (Member false)}

def exportStart : Text := "export".toList ++ ([' '] ++ ("default".toList ++ [' ']))

def optionsScript (members : List (Member false)) : Text :=
  exportStart ++ '\x7b' :: ([',', ' '].intercalate (members.map Member.render) ++ ['\x7d'])

def itemsBehind (gap : List GapPart) : List (Member false) → Items false
  | [] => .none
  | [member] => .last ⟨gap, member, [], by simp⟩
  | member :: next :: others =>
      .more ⟨gap, member, [], by simp⟩ ',' rfl (itemsBehind [.blank ' ' (by decide)] (next :: others))

theorem items_members (gap : List GapPart) (members : List (Member false)) :
    (itemsBehind gap members).members = members := by
  fun_induction itemsBehind gap members with
  | case1 gap => rfl
  | case2 gap member => rfl
  | case3 gap member next others ih => exact congrArg (member :: ·) ih

theorem items_inside (gap : List GapPart) (member : Member false) (members : List (Member false)) :
    (itemsBehind gap (member :: members)).inside = gap.flatMap GapPart.render ++
      [',', ' '].intercalate ((member :: members).map Member.render) := by
  induction members generalizing gap member with
  | nil => simp [itemsBehind, Items.inside, Literal.Item.render]
  | cons next others ih =>
      simp only [itemsBehind, Items.inside]
      rw [ih, List.map_cons, List.map_cons, List.map_cons, List.intercalate_cons_cons]
      simp [Literal.Item.render, GapPart.render]

theorem items_joined (members : List (Member false)) :
    (itemsBehind [] members).inside = [',', ' '].intercalate (members.map Member.render) := by
  cases members with
  | nil => rfl
  | cons member members => exact items_inside [] member members

theorem reads_export_default (rest : Text) :
    Reads exportDefault none (exportStart ++ ['\x7b']) rest () := by
  have spaced : ∀ before text, Text.Avoids Text.isBlank text → Reads blanks1 before [' '] text () :=
    fun before text dark => reads_many1 (by decide) (by simp) dark
  have bare : ∀ text, Fails (do
      words ["defineComponent", "Vue.extend"]
      blanks
      single '('
      blanks) ('\x7b' :: text) := by
    intro text
    have starts : ∀ choice ∈ ["defineComponent", "Vue.extend"],
        (choice.toList.head?.any (· != '\x7b')) = true := by decide
    refine fails_bind (fails_of_covers (covers_words _) ?_) _
    rintro passed after _ split ⟨choice, known, rfl⟩
    have other := starts choice known
    cases written : choice.toList with
    | nil => simp [written] at other
    | cons c letters =>
        rw [written, List.cons_append] at split
        simp [written, ← (List.cons.inj split).1] at other
  have joined : ∀ first second : Text, first ++ ([' '] ++ (second ++ [' '])) ++ ['\x7b'] =
      first ++ ([' '] ++ (second ++ ([' '] ++ ([] ++ ['\x7b'])))) := by simp
  have shape : exportStart ++ ['\x7b'] = _ := joined "export".toList "default".toList
  rw [shape]
  refine reads_bind (reads_word "export") ?_
  refine reads_bind (spaced _ _ (Text.avoids_cons (by decide) _)) ?_
  refine reads_bind (reads_word "default") ?_
  refine reads_bind (spaced _ _ (Text.avoids_cons (by decide) _)) ?_
  exact reads_bind (reads_optional_none (bare _)) (reads_single '\x7b')

theorem search_export_default (rest : Text) :
    search exportDefault (exportStart ++ '\x7b' :: rest) =
      some ⟨(), 0, exportStart.length + 1⟩ := by
  have quiet : Quiet exportDefault [] ((exportStart ++ ['\x7b']) ++ rest) := trivial
  have first := search_first quiet (reads_export_default rest)
  rwa [List.nil_append, List.append_assoc, List.singleton_append, List.length_nil, Nat.zero_add,
    List.length_append, List.length_singleton] at first

/-- The entries of an exported options object are its members. -/
theorem script_entries (members : List (Member false)) :
    ∃ entries, objectEntries (optionsScript members) exportStart.length false = .ok entries ∧
      entries.map namedBy = members.filterMap Member.named? := by
  have behind : (optionsScript members).drop exportStart.length =
      '\x7b' :: ((itemsBehind [] members).inside ++ '\x7d' :: []) := by
    rw [optionsScript, List.drop_left, items_joined]
  have closed := @Literal.find_closing_behind _ _ _ _ _ _ false _ behind rfl (by decide)
    (Literal.items_closed (itemsBehind [] members) '\x7b') rfl
  have brace := Literal.present_behind behind
  have names := Literal.names_items (itemsBehind [] members) '\x7b'
  rw [Literal.namesFrom, Literal.push_all_nil, items_members] at names
  refine ⟨_, Literal.object_entries_segments brace closed, ?_⟩
  rw [Literal.segmentsOf, Literal.slice_inside behind]
  exact (Literal.placed_names _ _).trans names

theorem add_options_script (members : List (Member false)) (outline : Outline) :
    ∃ entries : List Entry, entries.map namedBy = members.filterMap Member.named? ∧
      addOptions findClosing (optionsScript members) outline =
        entries.foldlM (addOption findClosing) outline := by
  obtain ⟨entries, found, named⟩ := script_entries members
  refine ⟨entries, named, ?_⟩
  rw [addOptions, optionsScript, search_export_default]
  dsimp only
  rw [Nat.add_sub_cancel, ← optionsScript, ← objectEntries, found]
  rfl

end Scripts

/-- The options object fills the lists of an outline, each with what its own member declares, in
whatever order its members stand. -/
theorem options_unordered (members others : List (Member false)) (outline : Outline)
    (distinct : ((members.filterMap Member.named?).map Prod.fst).Nodup)
    (permuted : members.Perm others) :
    ∃ names : OptionList → List String,
      (∀ list : OptionList, list.declaredBy (members.filterMap Member.named?) = .ok (names list)) ∧
      addOptions findClosing (optionsScript members) outline = .ok (outline.extendedBy names) ∧
      addOptions findClosing (optionsScript others) outline = .ok (outline.extendedBy names) := by
  have named := permuted.filterMap Member.named?
  obtain ⟨entries, same, run⟩ := add_options_script members outline
  obtain ⟨entries', same', run'⟩ := add_options_script others outline
  obtain ⟨names, declared, filled⟩ := fold_options_lists (same ▸ distinct) outline
  obtain ⟨names', declared', filled'⟩ :=
    fold_options_lists (same' ▸ (named.map Prod.fst).nodup_iff.mp distinct) outline
  have agree : names' = names := by
    funext list
    apply Except.ok.inj
    rw [← declared, ← declared', same, same', OptionList.declaredBy, OptionList.declaredBy,
      lookup_unordered named distinct]
  refine ⟨names, fun list => same ▸ declared list, run.trans filled, ?_⟩
  rw [run', filled', agree]

section Sample

def stateMember : Member false :=
  .method ⟨"data".toList, by decide⟩
    { text := "()\x7breturn\x7bb\x7d\x7d".toList
      closed := by
        have object : Closed false (fun _ => false) 'n' ('\x7b' :: (['b'] ++ ['\x7d'])) :=
          .group rfl rfl (Literal.closed_mark (by decide) rfl .nil) rfl .nil
        have body : Closed false (fun _ => false) '\x7b'
            ("return".toList ++ '\x7b' :: (['b'] ++ ['\x7d'])) :=
          Literal.closed_text (Text.each_of_all (by decide)) (fun _ _ => rfl) object
        have parameters : Closed false (fun _ => false) '(' [] := .nil
        exact .group rfl rfl parameters rfl (.group rfl rfl body rfl .nil)
      trimmed := by decide +kernel }
    rfl

def propMember : Member false :=
  .property (.name ⟨"props".toList, by decide⟩) false (by decide)
    { text := '\x7b' :: (['a'] ++ ['\x7d'])
      closed := .group rfl rfl (Literal.closed_mark (by decide) rfl .nil) rfl .nil
      trimmed := by decide +kernel }

end Sample

/-- State in front of properties and behind them. -/
theorem options_swapped :
    let members := [stateMember, propMember]
    optionsScript members =
      "export default \x7bdata()\x7breturn\x7bb\x7d\x7d, props: \x7ba\x7d\x7d".toList ∧
    ((members.filterMap Member.named?).map Prod.fst).Nodup ∧ members.Perm [propMember, stateMember] ∧
    ∃ names : OptionList → List String, names .data = ["b"] ∧ names .props = ["a"] ∧
      addOptions findClosing (optionsScript members) { name := "A" } =
        .ok (Outline.extendedBy { name := "A" } names) ∧
      addOptions findClosing (optionsScript [propMember, stateMember]) { name := "A" } =
        .ok (Outline.extendedBy { name := "A" } names) := by
  intro members
  have distinct : ((members.filterMap Member.named?).map Prod.fst).Nodup := by decide +kernel
  have swapped : members.Perm [propMember, stateMember] := .swap _ _ _
  have data : (OptionList.data.declaredBy (members.filterMap Member.named?)).toOption = some ["b"] := by
    decide +kernel
  have props : (OptionList.props.declaredBy (members.filterMap Member.named?)).toOption = some ["a"] := by
    decide +kernel
  obtain ⟨names, declared, filled, filled'⟩ :=
    options_unordered members [propMember, stateMember] { name := "A" } distinct swapped
  rw [declared] at data props
  exact ⟨by decide +kernel, distinct, swapped, names, Option.some.inj data, Option.some.inj props,
    filled, filled'⟩

end PatternInspector.Component
