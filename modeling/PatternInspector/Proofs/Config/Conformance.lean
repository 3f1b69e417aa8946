import PatternInspector.Proofs.Config.Schema

/-!
Checks that conform to a schema. A check of one setting conforms if it accepts what the setting
accepts. A check of a record conforms if it reads its fields one by one and each of them conforms, so a
nested configuration is validated as its settings are.
-/
namespace PatternInspector.Config

section Conformance

/-- The check finds issues exactly in flawed data. Otherwise every setting holds what the data gives
for it or its default, and the result is given back when it is checked again, as is the default. -/
structure Conforms (schema : Schema) (default : Value) (check : Value → Checked Value) : Prop where
  accepts : ∀ data, (check data).issues = [] ↔ ¬ schema.Flawed data
  merges : ∀ data, (check data).issues = [] → ∀ place ∈ schema.settings,
    (check data).value.descend place.1 = some (place.2.resolve (data.descend place.1))
  settles : ∀ data, (check data).issues = [] → check (check data).value = ⟨[], (check data).value⟩
  starts : check default = ⟨[], default⟩
  defaults : ∀ place ∈ schema.settings, default.descend place.1 = some place.2.default

theorem conforms_single {setting : Setting} {check : Value → Checked Value}
    (accepted : ∀ data value, setting.coerce data = some value → check data = ⟨[], value⟩)
    (refused : ∀ data, setting.coerce data = none → (check data).issues ≠ []) :
    Conforms (.single setting) setting.default check where
  accepts data := by
    rw [Schema.flawed_single]
    cases coerced : setting.coerce data with
    | none => exact ⟨fun none => absurd none (refused data coerced), fun none => absurd rfl none⟩
    | some value => simp [accepted data value coerced]
  merges data clean place member := by
    obtain rfl := List.mem_singleton.mp member
    cases coerced : setting.coerce data with
    | none => exact absurd clean (refused data coerced)
    | some value => simp [accepted data value coerced, Value.descend, Setting.resolve, coerced]
  settles data clean := by
    cases coerced : setting.coerce data with
    | none => exact absurd clean (refused data coerced)
    | some value =>
        rw [accepted data value coerced]
        exact accepted value value (setting.coerce_coerced coerced)
  starts := accepted _ _ setting.coerce_default
  defaults place member := by
    obtain rfl := List.mem_singleton.mp member
    rfl

end Conformance

section Leaves

variable {α : Type}

theorem Checked.eq_settled {checked : Checked α} {value : α} (clean : checked.issues = [])
    (same : checked.value = value) : checked = ⟨[], value⟩ := by
  rw [← clean, ← same]

def Checked.dumped (dump : α → Value) (checked : Checked α) : Checked Value :=
  ⟨checked.issues, dump checked.value⟩

/-- A check takes over what a reading gives, and finds an issue where it gives nothing. -/
inductive Follows : Option α → Checked α → Prop
  | accepted (value : α) : Follows (some value) ⟨[], value⟩
  | refused {checked : Checked α} (faulty : checked.issues ≠ []) : Follows none checked

theorem follows_failed (fallback : α) (kind : IssueKind) : Follows none (.failed fallback kind) :=
  .refused (List.cons_ne_nil _ _)

theorem Follows.checked_eq {read : Option α} {checked : Checked α} {value : α}
    (follows : Follows read checked) (found : read = some value) : checked = ⟨[], value⟩ := by
  cases follows with
  | accepted => rw [Option.some.inj found]
  | refused => cases found

theorem Follows.faulty {read : Option α} {checked : Checked α} (follows : Follows read checked)
    (missing : read = none) : checked.issues ≠ [] := by
  cases follows with
  | accepted => cases missing
  | refused faulty => exact faulty

theorem conforms_leaf {setting : Setting} {read? : Value → Option α} {check : Value → Checked α}
    {dump : α → Value} (coerce : ∀ data, setting.coerce data = (read? data).map dump)
    (follows : ∀ data, Follows (read? data) (check data)) :
    Conforms (.single setting) setting.default fun data => (check data).dumped dump := by
  refine conforms_single (fun data value coerced => ?_) fun data coerced => ?_
  · rw [coerce] at coerced
    obtain ⟨read, found, rfl⟩ := Option.map_eq_some_iff.mp coerced
    rw [(follows data).checked_eq found]
    rfl
  · rw [coerce] at coerced
    exact (follows data).faulty (Option.map_eq_none_iff.mp coerced)

theorem read_bool_follows (found : Option Bool) (fallback : Bool) :
    Follows found (readBool found fallback) := by
  cases found with
  | none => exact follows_failed fallback _
  | some truth => exact .accepted truth

theorem check_bool_follows (fallback : Bool) (data : Value) :
    Follows (boolOf? data) (checkBool fallback data) := by
  cases data with
  | bool truth => exact .accepted truth
  | int number => exact read_bool_follows _ fallback
  | string text => exact read_bool_follows _ fallback
  | decimal number =>
      simp only [checkBool, boolOf?]
      cases wholeNumber? number with
      | none => exact follows_failed fallback _
      | some whole => exact read_bool_follows _ fallback
  | _ => exact follows_failed fallback _

theorem check_positive_follows (fallback : Nat) (data : Value) :
    Follows (positiveOf? data) (checkPositive fallback data) := by
  unfold positiveOf? checkPositive
  cases integerOf data with
  | error kind => exact follows_failed fallback _
  | ok number =>
      by_cases positive : 0 < number
      · simp only [if_pos positive]
        exact .accepted _
      · simp only [if_neg positive]
        exact follows_failed fallback _

def choiceOf? (ofLabel? : String → Option α) : Value → Option α
  | .string text => ofLabel? text
  | _ => none

theorem check_choice_follows (ofLabel? : String → Option α) (fallback : α) (data : Value) :
    Follows (choiceOf? ofLabel? data) (checkChoice ofLabel? fallback data) := by
  cases data with
  | string text =>
      simp only [choiceOf?, checkChoice]
      cases ofLabel? text with
      | none => exact follows_failed fallback _
      | some choice => exact .accepted choice
  | _ => exact follows_failed fallback _

theorem find_label (all : List α) (label : α → String) (text : String) :
    (all.find? (label · == text)).map label = if text ∈ all.map label then some text else none := by
  induction all with
  | nil => rfl
  | cons first rest ih =>
      by_cases same : label first = text
      · simp [same]
      · simp [same, Ne.symm same, ih]

theorem coerce_choice {all : List α} {label : α → String} {default : String}
    {listed : default ∈ all.map label} (data : Value) :
    (Setting.choice (all.map label) default listed).coerce data =
      (choiceOf? (fun text => all.find? (label · == text)) data).map
        fun choice => .string (label choice) := by
  cases data with
  | string text =>
      change Option.map Value.string (if text ∈ all.map label then some text else none) = _
      rw [← find_label, Option.map_map]
      rfl
  | _ => rfl

end Leaves

section Tables

/-- One field of a record: its key and how its value is checked and written as data. -/
structure Column where
  key : String
  schema : Schema
  Carrier : Type
  default : Carrier
  check : Carrier → Value → Checked Carrier
  dump : Carrier → Value
  conforms : Conforms schema (dump default) fun data => (check default data).dumped dump

namespace Column

def switch (key : String) (default : Bool) : Column where
  key := key
  schema := .switch default
  Carrier := Bool
  default := default
  check := checkBool
  dump := .bool
  conforms := conforms_leaf (fun _ => rfl) (check_bool_follows default)

def threshold (key : String) (default : Nat) (positive : 0 < default) : Column where
  key := key
  schema := .threshold default positive
  Carrier := Nat
  default := default
  check := checkPositive
  dump := .nat
  conforms := conforms_leaf (fun _ => rfl) (check_positive_follows default)

def choice {α : Type} (all : List α) (label : α → String) (key : String) (default : α)
    (listed : default ∈ all) : Column where
  key := key
  schema := .choice all label default listed
  Carrier := α
  default := default
  check := checkChoice fun text => all.find? (label · == text)
  dump choice := .string (label choice)
  conforms := conforms_leaf coerce_choice (check_choice_follows _ default)

def severity (key : String) (default : Severity) : Column :=
  choice Severity.all Severity.label key default (Schema.mem_severities default)

variable (column : Column)

def initial : Value := column.dump column.default

def checked (data : Value) : Checked Value := (column.check column.default data).dumped column.dump

def part (entries : Entries) : Checked Value :=
  (field entries column.key column.default column.check).dumped column.dump

variable {column} {entries : Entries}

theorem part_absent (absent : Value.lookup column.key entries = none) :
    column.part entries = ⟨[], column.initial⟩ := by
  unfold part field
  rw [absent]
  rfl

theorem part_given {value : Value} (given : Value.lookup column.key entries = some value) :
    column.part entries = (column.checked value).under (.string column.key) := by
  unfold part field
  rw [given]
  rfl

theorem part_clean : (column.part entries).issues = [] ↔
    ∀ value, Value.lookup column.key entries = some value → ¬ column.schema.Flawed value := by
  cases given : Value.lookup column.key entries with
  | none => simp [part_absent given]
  | some value =>
      rw [part_given given]
      refine List.map_eq_nil_iff.trans ((column.conforms.accepts value).trans ?_)
      simp

-- The value of a clean field passes the check of the field as it is.
theorem part_settles (clean : (column.part entries).issues = []) :
    column.checked (column.part entries).value = ⟨[], (column.part entries).value⟩ := by
  cases given : Value.lookup column.key entries with
  | none =>
      rw [part_absent given]
      exact column.conforms.starts
  | some value =>
      rw [part_given given] at clean ⊢
      exact column.conforms.settles value (List.map_eq_nil_iff.mp clean)

theorem part_merges (clean : (column.part entries).issues = []) {place : List String × Setting}
    (member : place ∈ column.schema.settings) (label : Option Nat) :
    (column.part entries).value.descend place.1 =
      some (place.2.resolve ((Value.mapping label entries).descend (column.key :: place.1))) := by
  change _ = some (place.2.resolve ((Value.lookup column.key entries).bind (Value.descend place.1)))
  cases given : Value.lookup column.key entries with
  | none =>
      rw [part_absent given]
      exact column.conforms.defaults place member
  | some value =>
      rw [part_given given] at clean ⊢
      exact column.conforms.merges value (List.map_eq_nil_iff.mp clean) place member

end Column

def tableCheck (columns : List Column) : Value → Checked Value
  | .mapping _ entries =>
      ⟨(columns.flatMap fun column => (column.part entries).issues) ++
          entries.filterMap (keyIssue? (columns.map Column.key)),
        .object (columns.map fun column => (column.key, (column.part entries).value))⟩
  | _ => .failed (.object (columns.map fun column => (column.key, column.initial))) .notAMapping

def tableSchema (columns : List Column) : Schema :=
  .record (columns.map fun column => (column.key, column.schema))

theorem key_issue_none {known : List String} {entry : Value × Value} :
    keyIssue? known entry = none ↔ ∃ name ∈ known, entry.1 = .string name := by
  obtain ⟨key, value⟩ := entry
  cases key with
  | string text => simp [keyIssue?]
  | _ => simp [keyIssue?]

variable {columns : List Column}

theorem lookup_object (distinct : (columns.map Column.key).Nodup) (values : Column → Value)
    {column : Column} (member : column ∈ columns) :
    Value.lookup column.key
      ((columns.map fun column => (column.key, values column)).map fun field =>
        (.string field.1, field.2)) = some (values column) := by
  induction columns with
  | nil => cases member
  | cons first rest ih =>
      obtain ⟨fresh, distinct⟩ := List.nodup_cons.mp distinct
      simp only [List.map_cons, Value.lookup, Value.isString, beq_iff_eq]
      rcases List.mem_cons.mp member with rfl | later
      · exact if_pos rfl
      · rw [if_neg, ih distinct later]
        exact fun same => fresh (same ▸ List.mem_map_of_mem later)

theorem table_clean {label : Option Nat} {entries : Entries} :
    (tableCheck columns (.mapping label entries)).issues = [] ↔
      (∀ column ∈ columns, (column.part entries).issues = []) ∧
      ∀ entry ∈ entries, ∃ name ∈ columns.map Column.key, entry.1 = .string name := by
  simp only [tableCheck, List.append_eq_nil_iff, List.flatMap_eq_nil_iff, List.filterMap_eq_nil_iff,
    key_issue_none]

theorem mem_table {place : List String × Setting} :
    place ∈ (tableSchema columns).settings ↔ ∃ column ∈ columns, ∃ inner,
      place.1 = column.key :: inner ∧ (inner, place.2) ∈ column.schema.settings := by
  refine Schema.mem_fields.trans ⟨?_, ?_⟩
  · rintro ⟨field, present, inside⟩
    obtain ⟨column, listed, rfl⟩ := List.mem_map.mp present
    exact ⟨column, listed, inside⟩
  · rintro ⟨column, present, inside⟩
    exact ⟨_, List.mem_map_of_mem present, inside⟩

-- A record of values that pass as they are passes as it is.
theorem table_settles (distinct : (columns.map Column.key).Nodup) {values : Column → Value}
    (settled : ∀ column ∈ columns, column.checked (values column) = ⟨[], values column⟩) :
    tableCheck columns (.object (columns.map fun column => (column.key, values column))) =
      ⟨[], .object (columns.map fun column => (column.key, values column))⟩ := by
  have parts : ∀ column ∈ columns, column.part
      ((columns.map fun column => (column.key, values column)).map fun field =>
        (.string field.1, field.2)) = ⟨[], values column⟩ := by
    intro column member
    rw [Column.part_given (lookup_object distinct values member), settled column member]
    rfl
  refine Checked.eq_settled ?_ (congrArg Value.object ?_)
  · refine table_clean.mpr ⟨fun column member => by rw [parts column member], fun entry member => ?_⟩
    obtain ⟨column, present, rfl⟩ := List.mem_map.mp (List.map_map ▸ member)
    exact ⟨column.key, List.mem_map_of_mem present, rfl⟩
  · exact List.map_congr_left fun column member => by rw [parts column member]

theorem table_accepts (label : Option Nat) (entries : Entries) :
    (tableCheck columns (.mapping label entries)).issues = [] ↔
      ¬ (tableSchema columns).Flawed (.mapping label entries) := by
  have known : (columns.map fun column => (column.key, column.schema)).map Prod.fst =
      columns.map Column.key := by
    rw [List.map_map]
    rfl
  rw [table_clean, tableSchema, Schema.flawed_record, not_or, known, and_comm]
  refine and_congr ?_ ?_
  · simp only [not_exists, not_and, Classical.not_forall, Classical.not_not, ne_eq, exists_prop]
  · simp only [Column.part_clean, not_exists, not_and, List.forall_mem_map]

theorem conforms_table (distinct : (columns.map Column.key).Nodup) :
    Conforms (tableSchema columns)
      (.object (columns.map fun column => (column.key, column.initial))) (tableCheck columns) where
  accepts data := by
    cases data with
    | mapping label entries => exact table_accepts label entries
    | _ => exact iff_of_false (by exact List.cons_ne_nil _ _)
            (not_not_intro (Schema.flawed_record_other nofun))
  merges data clean place member := by
    obtain ⟨column, present, inner, at_key, place⟩ := mem_table.mp member
    cases data with
    | mapping label entries =>
        rw [at_key]
        refine (congrArg (Option.bind · _) (lookup_object distinct _ present)).trans ?_
        exact Column.part_merges ((table_clean.mp clean).1 column present) place label
    | _ => exact absurd clean (List.cons_ne_nil _ _)
  settles data clean := by
    cases data with
    | mapping label entries =>
        exact table_settles distinct fun column member =>
          Column.part_settles ((table_clean.mp clean).1 column member)
    | _ => exact absurd clean (List.cons_ne_nil _ _)
  starts := table_settles distinct fun column _ => column.conforms.starts
  defaults place member := by
    obtain ⟨column, present, inner, at_key, place⟩ := mem_table.mp member
    rw [at_key]
    refine (congrArg (Option.bind · _) (lookup_object distinct _ present)).trans ?_
    exact column.conforms.defaults _ place

def Column.table {α : Type} (key : String) (default : α) (check : α → Value → Checked α)
    (dump : α → Value) (columns : List Column) (distinct : (columns.map Column.key).Nodup)
    (initial : dump default = .object (columns.map fun column => (column.key, column.initial)))
    (same : ∀ data, (check default data).dumped dump = tableCheck columns data) : Column where
  key := key
  schema := tableSchema columns
  Carrier := α
  default := default
  check := check
  dump := dump
  conforms := by
    rw [initial, funext same]
    exact conforms_table distinct

def rootCheck (column : Column) : Value → Checked column.Carrier :=
  record [column.key] (fun default entries => field entries column.key default column.check)
    column.default

def rootValue (column : Column) (value : column.Carrier) : Value :=
  .object [(column.key, column.dump value)]

theorem root_table (column : Column) (data : Value) :
    (rootCheck column data).dumped (rootValue column) = tableCheck [column] data := by
  cases data with
  | mapping label entries =>
      change Checked.mk ((column.part entries).issues ++ _) _ =
        Checked.mk ((column.part entries).issues ++ [] ++ _) _
      rw [List.append_nil]
      rfl
  | _ => rfl

theorem conforms_root (column : Column) :
    Conforms (tableSchema [column]) (rootValue column column.default)
      fun data => (rootCheck column data).dumped (rootValue column) := by
  have distinct : ([column].map Column.key).Nodup :=
    List.nodup_cons.mpr ⟨List.not_mem_nil, List.nodup_nil⟩
  rw [funext (root_table column)]
  exact conforms_table distinct

end Tables

section Writing

theorem object_inj {first second : List (String × Value)} :
    Value.object first = Value.object second ↔ first = second := by
  constructor
  · intro same
    refine (List.map_inj_right fun one two alike => ?_).mp (Value.mapping.inj same).2
    exact Prod.ext (Value.string.inj (Prod.mk.inj alike).1) (Prod.mk.inj alike).2
  · exact congrArg Value.object

theorem nat_inj {first second : Nat} : Value.nat first = Value.nat second ↔ first = second := by
  rw [Value.nat, Value.nat, Value.int.injEq, Int.natCast_inj]

theorem severity_value_inj {first second : Severity} :
    first.toValue = second.toValue ↔ first = second := by
  cases first <;> cases second <;> simp [Severity.toValue, Severity.label]

end Writing

section Validation

variable {α : Type}

theorem to_except_clean {checked : Checked α} (clean : checked.issues = []) :
    checked.toExcept = .ok checked.value := by
  rw [Checked.toExcept, clean]
  rfl

theorem to_except_faulty {checked : Checked α} (faulty : checked.issues ≠ []) :
    checked.toExcept = .error checked.issues :=
  if_neg fun clean => faulty (List.isEmpty_iff.mp clean)

theorem merged_of_resolved {schema : Schema} {data result : Value} (sound : ¬ schema.Flawed data)
    (resolved : ∀ place ∈ schema.settings,
      result.descend place.1 = some (place.2.resolve (data.descend place.1))) :
    Merged schema data result where
  given path setting value member found := by
    rw [resolved _ member, found]
    cases coerced : setting.coerce value with
    | none => exact absurd (.refused member found coerced) sound
    | some read => simp [Setting.resolve, coerced]
  absent path setting member missing := by
    rw [resolved _ member, missing]
    rfl
  positive path default positive member := by
    rw [resolved _ member]
    cases found : data.descend path with
    | none => exact ⟨default, positive, rfl⟩
    | some value =>
        cases coerced : positiveOf? value with
        | none =>
            refine absurd (.refused member found ?_) sound
            exact congrArg (Option.map Value.nat) coerced
        | some number =>
            refine ⟨number, Setting.positive_of_read coerced, ?_⟩
            simp [Setting.resolve, Setting.coerce, coerced]

theorem conforms_validates {schema : Schema} {default : Value} {check : Value → Checked α}
    {dump : α → Value} (conforms : Conforms schema default fun data => (check data).dumped dump)
    (injective : ∀ first second, dump first = dump second → first = second) :
    Validates schema check dump where
  rejects data flawed :=
    ⟨_, to_except_faulty fun clean => (conforms.accepts data).mp clean flawed⟩
  succeeds data sound := by
    have clean := (conforms.accepts data).mpr sound
    refine ⟨_, to_except_clean clean, merged_of_resolved sound (conforms.merges data clean), ?_⟩
    have settled := conforms.settles data clean
    have again : (check (dump (check data).value)).issues = [] := congrArg Checked.issues settled
    rw [to_except_clean again]
    exact congrArg Except.ok (injective _ _ (congrArg Checked.value settled))

end Validation

end PatternInspector.Config
