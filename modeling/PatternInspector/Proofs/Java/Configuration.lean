import Mathlib.Data.List.Nodup
import PatternInspector.Java.Rules
import PatternInspector.Proofs.Config.Reading

/-!
Where a configured rule comes from. Each slot has a place of its own in the configuration data, under its
category and its name, and what stands there decides about this slot only.
-/
namespace PatternInspector.Java

open Config (Checked Entries field record checkBool checkSeverity readAt)

section Categories

theorem mem_of_category (slot : Slot) (category : Category) :
    slot ∈ Slot.ofCategory category ↔ slot.category = category := by
  rw [Slot.ofCategory, List.mem_map]
  constructor
  · rintro ⟨name, -, rfl⟩
    rfl
  · rintro rfl
    exact ⟨⟨slot.name, slot.known⟩, List.mem_attach _ _, rfl⟩

theorem of_category_names (category : Category) :
    (Slot.ofCategory category).map Slot.name = category.ruleNames := by
  rw [Slot.ofCategory, List.map_map]
  exact List.attach_map_subtype_val _

theorem rule_names_distinct (category : Category) : category.ruleNames.Nodup := by
  cases category <;> decide

theorem of_category_distinct (category : Category) : (Slot.ofCategory category).Nodup := by
  apply List.Nodup.of_map Slot.name
  rw [of_category_names]
  exact rule_names_distinct category

theorem mem_categories (category : Category) : category ∈ Category.all := by
  cases category <;> decide

end Categories

section Settings

variable {rules : Rules} {slot : Slot}

-- Each step changes the rules that it owns, so a run over distinct steps changes each rule once.
theorem fold_owned {ι : Type} [DecidableEq ι] (owner : Slot → ι)
    (update : Slot → PatternRule → PatternRule) {step : Rules → ι → Rules}
    (owned : ∀ rules item slot, (step rules item).rule slot =
      if owner slot = item then update slot (rules.rule slot) else rules.rule slot)
    {items : List ι} (distinct : items.Nodup) (rules : Rules) (slot : Slot) :
    (items.foldl step rules).rule slot =
      if owner slot ∈ items then update slot (rules.rule slot) else rules.rule slot := by
  induction items generalizing rules with
  | nil => rfl
  | cons item items ih =>
      obtain ⟨fresh, distinct⟩ := List.nodup_cons.mp distinct
      rw [List.foldl_cons, ih distinct, owned]
      by_cases own : owner slot = item
      · simp [own, fresh]
      · simp [own]

theorem check_slot_rule (label : Option Nat) (entries : Entries) (rules : Rules)
    (item slot : Slot) :
    (Rules.checkSlot entries rules item).value.rule slot =
      if slot = item then
        readAt [slot.name] (rules.rule slot) Rules.checkRule (.mapping label entries)
      else rules.rule slot := by
  rw [Rules.checkSlot, Config.bind_value, Config.field_value label]
  change (if slot = item then _ else _) = _
  by_cases own : slot = item
  · subst own
    rfl
  · rw [if_neg own, if_neg own]

theorem check_slots_rule (category : Category) (label : Option Nat) (entries : Entries)
    (rules : Rules) (slot : Slot) :
    ((Slot.ofCategory category).foldlM (Rules.checkSlot entries) rules).value.rule slot =
      if slot.category = category then
        readAt [slot.name] (rules.rule slot) Rules.checkRule (.mapping label entries)
      else rules.rule slot := by
  rw [Config.fold_value, fold_owned id
    (fun slot rule => readAt [slot.name] rule Rules.checkRule (.mapping label entries))
    (check_slot_rule label entries) (of_category_distinct category)]
  simp only [id, mem_of_category]

theorem check_category_own (category : Category) (rules : Rules) (data : Value)
    (own : slot.category = category) :
    (Rules.checkCategory category rules data).value.rule slot =
      readAt [slot.name] (rules.rule slot) Rules.checkRule data := by
  refine Config.record_setting (fun rules : Rules => rules.rule slot) (fun label entries => ?_) data
  exact (check_slots_rule category label entries rules slot).trans (if_pos own)

theorem check_category_other (category : Category) (rules : Rules) (data : Value)
    (other : slot.category ≠ category) :
    (Rules.checkCategory category rules data).value.rule slot = rules.rule slot := by
  cases data with
  | mapping label entries =>
      exact (check_slots_rule category label entries rules slot).trans (if_neg other)
  | _ => rfl

theorem check_categories_rule (rules : Rules) (data : Value) (slot : Slot) :
    (Rules.checkCategories rules data).value.rule slot =
      readAt [slot.category.label, slot.name] (rules.rule slot) Rules.checkRule data := by
  refine Config.record_setting (fun rules : Rules => rules.rule slot) (fun label entries => ?_) data
  rw [Config.fold_value, fold_owned Slot.category (fun slot rule =>
    readAt [slot.category.label, slot.name] rule Rules.checkRule (.mapping label entries))]
  · exact if_pos (mem_categories slot.category)
  · intro rules category slot
    by_cases own : slot.category = category
    · subst own
      rw [if_pos rfl]
      exact Config.field_setting (fun rules : Rules => rules.rule slot) label entries _
        fun value => check_category_own _ rules value rfl
    · rw [if_neg own]
      unfold field
      cases Value.lookup category.label entries with
      | none => rfl
      | some value => exact check_category_other category rules value own
  · decide

def Slot.path (slot : Slot) : List String :=
  ["rules", slot.category.label, slot.name]

theorem check_rule_at (data : Value) (slot : Slot) :
    (Rules.check data).value.rule slot = readAt slot.path {} Rules.checkRule data :=
  Config.record_setting (fun rules : Rules => rules.rule slot)
    (fun label entries => Config.field_setting (fun rules : Rules => rules.rule slot) label entries
      "rules" fun value => check_categories_rule {} value slot) data

theorem omitted_rule {data : Value} (omitted : data.descend slot.path = none) :
    (Rules.check data).value.rule slot = {} := by
  rw [check_rule_at, readAt, omitted]

/-- The rule that configuration data gives at a path, each setting at its own place. -/
def configured (data : Value) (path : List String) : PatternRule where
  enabled := readAt (path ++ ["enabled"]) false checkBool data
  severity := readAt (path ++ ["severity"]) .info checkSeverity data
  detectAntipatterns := readAt (path ++ ["detect_antipatterns"]) false checkBool data

theorem check_rule_settings (default : PatternRule) (data : Value) :
    (Rules.checkRule default data).value = {
      enabled := readAt ["enabled"] default.enabled checkBool data
      severity := readAt ["severity"] default.severity checkSeverity data
      detectAntipatterns :=
        readAt ["detect_antipatterns"] default.detectAntipatterns checkBool data } := by
  cases data with
  | mapping label entries =>
      simp only [← Config.field_value label]
      rfl
  | _ => rfl

theorem check_configured (data : Value) (slot : Slot) :
    (Rules.check data).value.rule slot = configured data slot.path := by
  have settings := fun value => check_rule_settings {} value
  rw [check_rule_at, configured,
    ← Config.read_at_append PatternRule.enabled slot.path
      (fun value => congrArg PatternRule.enabled (settings value)),
    ← Config.read_at_append PatternRule.severity slot.path
      (fun value => congrArg PatternRule.severity (settings value)),
    ← Config.read_at_append PatternRule.detectAntipatterns slot.path
      (fun value => congrArg PatternRule.detectAntipatterns (settings value))]

end Settings

end PatternInspector.Java
