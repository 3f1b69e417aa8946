import Mathlib.Data.List.Nodup
import PatternInspector.Java.Detect

/-!
The table of rules. Every pattern has one rule, which stands under the category of the pattern and finds
its settings there, and all rules but one judge class by class.
-/
namespace PatternInspector.Java

section Table

theorem rule_known (pattern : Pattern) :
    (Rule.all.find? fun rule => rule.pattern == pattern).isSome = true := by
  cases pattern <;> rfl

def Pattern.rule (pattern : Pattern) : Rule :=
  (Rule.all.find? fun rule => rule.pattern == pattern).get (rule_known pattern)

theorem rule_of_mem {rule : Rule} (member : rule ∈ Rule.all) : rule.pattern.rule = rule := by
  have same : Rule.all.map (fun rule => rule.pattern.rule) = Rule.all.map id := rfl
  exact List.map_inj_left.mp same rule member

theorem rule_mem (pattern : Pattern) : pattern.rule ∈ Rule.all :=
  List.get_find?_mem _

theorem rule_pattern (pattern : Pattern) : pattern.rule.pattern = pattern := by
  cases pattern <;> rfl

/-- What holds of the rule of each pattern holds of all rules. -/
theorem forall_rules {holds : Rule → Prop} (each : ∀ pattern : Pattern, holds pattern.rule) :
    ∀ rule ∈ Rule.all, holds rule := by
  intro rule member
  rw [← rule_of_mem member]
  exact each rule.pattern

theorem category_of_mem {rule : Rule} (member : rule ∈ Rule.all) :
    rule.category = rule.pattern.category := by
  revert rule
  apply forall_rules
  intro pattern
  cases pattern <;> rfl

theorem mem_patterns (pattern : Pattern) : pattern ∈ Pattern.all :=
  List.mem_map.mpr ⟨pattern.rule, rule_mem pattern, rule_pattern pattern⟩

end Table

section Classes

/-- The rule goes through the classes and judges one after the other. -/
def Rule.JudgesBy (rule : Rule) (judge : List ClassModel → Bool → ClassModel → Option Detection) :
    Prop :=
  ∀ classes flag, rule.evaluate classes flag = classes.filterMap (judge classes flag)

end Classes

section Settings

variable {rules : Rules} {rule : Rule}

theorem keys_distinct : (Pattern.all.map Pattern.key).Nodup := by decide +kernel

theorem patterns_distinct : Pattern.all.Nodup := keys_distinct.of_map

theorem key_injective : Function.Injective Pattern.key := fun _ _ same =>
  List.inj_on_of_nodup_map keys_distinct (mem_patterns _) (mem_patterns _) same

theorem label_injective : Function.Injective Pattern.label := by
  intro first second same
  apply key_injective
  rw [Pattern.key, same, Pattern.key]

theorem key_known (pattern : Pattern) : pattern.key ∈ pattern.category.ruleNames := by
  cases pattern <;> decide +kernel

def Pattern.slot (pattern : Pattern) : Slot := ⟨pattern.category, pattern.key, key_known pattern⟩

theorem slot_injective : Function.Injective Pattern.slot := fun _ _ same =>
  key_injective (congrArg Slot.name same)

/-- Every rule finds its settings. -/
theorem slot_found (member : rule ∈ Rule.all) :
    Slot.find? rule.category rule.pattern = some rule.pattern.slot := by
  rw [category_of_mem member, Slot.find?, dif_pos (key_known rule.pattern), Pattern.slot]

theorem of_rule_slot (member : rule ∈ Rule.all) :
    rules.ofRule rule = rules.rule rule.pattern.slot := by
  rw [Rules.ofRule, Rules.ruleFor, Rules.ruleFor?, slot_found member, Option.map_some,
    Option.getD_some]

end Settings

end PatternInspector.Java
