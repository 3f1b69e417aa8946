import PatternInspector.Proofs.Config.Conformance
import PatternInspector.Proofs.Java.Configuration

/-!
The configuration of the pattern checks against its schema. Every pattern has the same three settings
under its category, and none is looked for unless the configuration says so. The rules are read in a
run over the categories and their slots, in which each step has issues and a rule of its own.
-/
namespace PatternInspector.Java.Rules

open Config (Checked Column Conforms Entries Schema Validates checkBool checkSeverity field record
  tableCheck)

section Schemas

def ruleSchema : Schema := .record [
  ("enabled", .switch false),
  ("severity", .severity .info),
  ("detect_antipatterns", .switch false)]

def schema : Schema := .record [("rules", .record (Category.all.map fun category => (category.label,
  .record (category.ruleNames.map fun name => (name, ruleSchema)))))]

end Schemas

section Issues

variable {α β : Type} {entries : Entries}

/-- What is found wrong does not depend on the value to fall back to. -/
def Impartial (check : α → Value → Checked α) : Prop :=
  ∀ first second data, (check first data).issues = (check second data).issues

theorem field_impartial {check : α → Value → Checked α} (impartial : Impartial check) (name : String)
    (first second : α) :
    (field entries name first check).issues = (field entries name second check).issues := by
  unfold field
  cases Value.lookup name entries with
  | none => rfl
  | some value => exact congrArg (List.map _) (impartial first second value)

theorem read_bool_impartial (found : Option Bool) (first second : Bool) :
    (Config.readBool found first).issues = (Config.readBool found second).issues := by
  cases found <;> rfl

theorem check_bool_impartial : Impartial checkBool := by
  intro first second data
  cases data with
  | int number => exact read_bool_impartial _ first second
  | string text => exact read_bool_impartial _ first second
  | decimal number =>
      simp only [checkBool]
      cases Config.wholeNumber? number with
      | none => rfl
      | some whole => exact read_bool_impartial _ first second
  | _ => rfl

theorem check_severity_impartial : Impartial checkSeverity := by
  intro first second data
  cases data with
  | string text =>
      simp only [checkSeverity, Config.checkChoice]
      cases Severity.ofLabel? text <;> rfl
  | _ => rfl

theorem check_rule_impartial : Impartial checkRule := by
  intro first second data
  cases data with
  | mapping label entries =>
      change (field entries "enabled" first.enabled checkBool).issues ++
          ((field entries "severity" first.severity checkSeverity).issues ++
            ((field entries "detect_antipatterns" first.detectAntipatterns checkBool).issues ++ [])) ++
              _ = _
      rw [field_impartial check_bool_impartial "enabled" first.enabled second.enabled,
        field_impartial check_severity_impartial "severity" first.severity second.severity,
        field_impartial check_bool_impartial "detect_antipatterns" first.detectAntipatterns
          second.detectAntipatterns]
      rfl
  | _ => rfl

-- The issues of a run are those of its steps if no step looks at the state for them.
theorem fold_issues {step : β → α → Checked β} {found : α → List Config.Issue}
    (own : ∀ state item, (step state item).issues = found item) (items : List α) (state : β) :
    (items.foldlM step state).issues = items.flatMap found := by
  induction items generalizing state with
  | nil => rfl
  | cons item items ih =>
      rw [List.foldlM_cons, List.flatMap_cons, ← own state item, ← ih]
      rfl

theorem check_slots_issues (category : Category) (rules : Rules) :
    ((Slot.ofCategory category).foldlM (checkSlot entries) rules).issues =
      (Slot.ofCategory category).flatMap fun slot =>
        (field entries slot.name {} checkRule).issues := by
  refine fold_issues (fun rules slot => ?_) _ rules
  change (field entries slot.name (rules.rule slot) checkRule).issues ++ [] = _
  rw [List.append_nil]
  exact field_impartial check_rule_impartial slot.name _ _

theorem check_category_impartial (category : Category) : Impartial (checkCategory category) := by
  intro first second data
  cases data with
  | mapping label entries =>
      change ((Slot.ofCategory category).foldlM (checkSlot entries) first).issues ++ _ =
        ((Slot.ofCategory category).foldlM (checkSlot entries) second).issues ++ _
      rw [check_slots_issues, check_slots_issues]
  | _ => rfl

theorem check_categories_issues (rules : Rules) :
    (Category.all.foldlM (fun rules category =>
        field entries category.label rules (checkCategory category)) rules).issues =
      Category.all.flatMap fun category =>
        (field entries category.label {} (checkCategory category)).issues :=
  fold_issues (fun rules category =>
    field_impartial (check_category_impartial category) category.label rules {}) Category.all rules

end Issues

section Columns

-- A run that reads the items' fields and whose result holds what each field gives reads a table.
theorem fold_table {ι : Type} (items : List ι) (column : ι → Column) (label : Option Nat)
    (entries : Entries) (part : Rules → ι → Value) {run : Checked Rules}
    (issues : run.issues = items.flatMap fun item => ((column item).part entries).issues)
    (values : ∀ item ∈ items, part run.value item = ((column item).part entries).value) :
    Checked.mk
        (run.issues ++
          entries.filterMap (Config.keyIssue? (items.map fun item => (column item).key)))
        (Value.object (items.map fun item => ((column item).key, part run.value item))) =
      tableCheck (items.map column) (.mapping label entries) := by
  have fields : items.map (fun item => ((column item).key, part run.value item)) =
      items.map fun item => ((column item).key, ((column item).part entries).value) :=
    List.map_congr_left fun item member => by rw [values item member]
  rw [issues, fields, tableCheck, List.flatMap_map, List.map_map, List.map_map]
  rfl

def ruleColumn (slot : Slot) : Column :=
  .table slot.name {} checkRule ruleValue
    [.switch "enabled" false, .severity "severity" .info, .switch "detect_antipatterns" false]
    (by decide) rfl fun data => by cases data <;> rfl

theorem slot_keys_distinct (category : Category) :
    (((Slot.ofCategory category).map ruleColumn).map Column.key).Nodup := by
  rw [List.map_map]
  cases category <;> decide

theorem initial_category (category : Category) : categoryValue {} category =
    .object (((Slot.ofCategory category).map ruleColumn).map fun column =>
      (column.key, column.initial)) := by
  rw [List.map_map]
  rfl

theorem check_category_table (category : Category) (data : Value) :
    (checkCategory category {} data).dumped (categoryValue · category) =
      tableCheck ((Slot.ofCategory category).map ruleColumn) data := by
  cases data with
  | mapping label entries =>
      rw [checkCategory, ← of_category_names]
      refine fold_table _ ruleColumn label entries
        (fun rules slot => ruleValue (rules.rule slot)) (check_slots_issues category {})
        fun slot member => ?_
      have own := (mem_of_category slot category).mp member
      refine congrArg ruleValue ((check_slots_rule category label entries {} slot).trans ?_)
      rw [if_pos own, ← Config.field_value]
      rfl
  | _ => exact congrArg (Checked.mk _) (initial_category category)

def categoryColumn (category : Category) : Column :=
  .table category.label {} (checkCategory category) (categoryValue · category)
    ((Slot.ofCategory category).map ruleColumn) (slot_keys_distinct category)
    (initial_category category) (check_category_table category)

theorem check_categories_table (data : Value) :
    (checkCategories {} data).dumped categoriesValue =
      tableCheck (Category.all.map categoryColumn) data := by
  cases data with
  | mapping label entries =>
      refine fold_table _ categoryColumn label entries categoryValue (check_categories_issues {})
        fun category _ => congrArg Value.object (List.map_congr_left fun slot member => ?_)
      have own := (mem_of_category slot category).mp member
      subst own
      refine congrArg (fun rule => (slot.name, ruleValue rule)) ?_
      refine (check_categories_rule {} (.mapping label entries) slot).trans (Eq.symm ?_)
      exact Config.field_setting (fun rules : Rules => rules.rule slot) label entries _
        fun value => check_category_own _ {} value rfl
  | _ => rfl

def categoriesColumn : Column :=
  .table "rules" {} checkCategories categoriesValue (Category.all.map categoryColumn)
    (by decide) rfl check_categories_table

end Columns

theorem check_conforms :
    Conforms schema (toValue {}) fun data => (check data).dumped toValue :=
  Config.conforms_root categoriesColumn

theorem rule_value_injective {first second : PatternRule}
    (same : ruleValue first = ruleValue second) : first = second := by
  obtain ⟨_, _, _⟩ := first
  obtain ⟨_, _, _⟩ := second
  simp only [ruleValue, Config.object_inj, List.cons.injEq, Prod.mk.injEq, true_and, and_true,
    Value.bool.injEq, Config.severity_value_inj] at same
  simp only [same]

theorem to_value_injective (first second : Rules) (same : first.toValue = second.toValue) :
    first = second := by
  obtain ⟨first⟩ := first
  obtain ⟨second⟩ := second
  congr
  funext slot
  simp only [toValue, categoriesValue, Config.object_inj, List.cons.injEq, Prod.mk.injEq, true_and, and_true,
    List.map_inj_left, categoryValue] at same
  refine rule_value_injective (same _ (mem_categories slot.category) slot ?_)
  exact (mem_of_category slot _).mpr rfl

theorem check_validates : Validates schema check toValue :=
  Config.conforms_validates check_conforms to_value_injective

end PatternInspector.Java.Rules
