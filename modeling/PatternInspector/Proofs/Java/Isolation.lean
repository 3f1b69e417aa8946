import Mathlib.Data.List.Forall2
import PatternInspector.Java.Parse
import PatternInspector.Proofs.Java.Configuration
import PatternInspector.Proofs.Java.Evidence
import PatternInspector.Proofs.Syntax.Enumeration

/-!
Rules do not see one another. Detections come rule by rule in a fixed order, under a rule they follow the
classes, and switching a rule off takes away its own detections and nothing else. Rules, detections and
settings name their pattern and their category each for themselves, and these names agree: a detection is
reported with the settings of the rule that made it.
-/
namespace PatternInspector.Java

section Order

def Category.rank (category : Category) : Nat := Category.all.idxOf category

def Pattern.rank (pattern : Pattern) : Nat := Pattern.all.idxOf pattern

theorem positions_ascend {α : Type} [DecidableEq α] {items : List α} (distinct : items.Nodup) :
    items.Pairwise fun first second => items.idxOf first < items.idxOf second := by
  rw [List.pairwise_iff_getElem]
  intro i j insideI insideJ before
  rwa [distinct.idxOf_getElem, distinct.idxOf_getElem]

theorem rules_by_pattern :
    Rule.all.Pairwise fun first second => first.pattern.rank ≤ second.pattern.rank := by
  have ascending : (Rule.all.map Rule.pattern).Pairwise fun first second =>
      first.rank ≤ second.rank :=
    (positions_ascend patterns_distinct).imp Nat.le_of_lt
  rwa [List.pairwise_map] at ascending

theorem rules_by_category :
    Rule.all.Pairwise fun first second => first.category.rank ≤ second.category.rank := by
  have ascending : (Rule.all.map fun rule => rule.category.rank).Pairwise (· ≤ ·) := by decide
  exact List.pairwise_map.mp ascending

end Order

section Detections

variable {rules : Rules} {classes : List ClassModel} {rule : Rule} {slot : Slot}

def contribution (rules : Rules) (classes : List ClassModel) (rule : Rule) : List Detection :=
  if (rules.ofRule rule).enabled then
    rule.evaluate classes (rules.ofRule rule).detectAntipatterns
  else []

theorem detect_contributions (rules : Rules) (classes : List ClassModel) :
    detect rules classes = Rule.all.flatMap (contribution rules classes) := rfl

theorem contribution_sound (member : rule ∈ Rule.all) :
    ∀ detection ∈ contribution rules classes rule,
      Sound rule.pattern rule.category detection := by
  unfold contribution
  split
  next => exact evaluate_sound member classes _
  next => exact List.forall_mem_nil _

theorem detect_ordered : (detect rules classes).Pairwise fun first second =>
    first.pattern.rank ≤ second.pattern.rank ∧ first.category.rank ≤ second.category.rank := by
  have ordered := List.pairwise_and_iff.mpr ⟨rules_by_pattern, rules_by_category⟩
  refine List.pairwise_flatMap.mpr ⟨?_, ?_⟩
  · intro rule member
    apply List.pairwise_of_forall_mem_list
    intro first given second other
    have own := contribution_sound member first given
    have same := contribution_sound member second other
    rw [own.pattern, own.category, same.pattern, same.category]
    exact ⟨Nat.le_refl _, Nat.le_refl _⟩
  · apply ordered.imp_of_mem
    intro early late earlyMember lateMember before first given second other
    have own := contribution_sound earlyMember first given
    have later := contribution_sound lateMember second other
    rwa [own.pattern, own.category, later.pattern, later.category]

-- Keeping the detections of some patterns is the same as running only their rules.
theorem detect_filter (keeps : Pattern → Bool) :
    (detect rules classes).filter (fun detection => keeps detection.pattern) =
      (Rule.all.filter fun rule => keeps rule.pattern).flatMap (contribution rules classes) := by
  rw [detect_contributions, List.filter_flatMap, Syntax.flat_map_filter]
  apply List.flatMap_congr
  intro rule member
  split
  next kept =>
    rw [List.filter_eq_self]
    intro detection given
    rw [(contribution_sound member detection given).pattern, kept]
  next dropped =>
    rw [List.filter_eq_nil_iff]
    intro detection given
    rwa [(contribution_sound member detection given).pattern]

theorem detect_own (member : rule ∈ Rule.all) :
    (detect rules classes).filter (fun detection => decide (detection.pattern = rule.pattern)) =
      contribution rules classes rule := by
  have alone : ∀ pattern : Pattern,
      (Rule.all.filter fun other => decide (other.pattern = pattern)) = [pattern.rule] := by
    intro pattern
    cases pattern <;> rfl
  rw [detect_filter fun pattern => decide (pattern = rule.pattern), alone, rule_of_mem member,
    List.flatMap_singleton]

def Rules.switch (rules : Rules) (slot : Slot) (on : Bool) : Rules :=
  rules.set slot { rules.rule slot with enabled := on }

theorem switch_own (member : rule ∈ Rule.all) (on : Bool) :
    (rules.switch rule.pattern.slot on).ofRule rule = { rules.ofRule rule with enabled := on } := by
  rw [of_rule_slot member, of_rule_slot member]
  exact if_pos rfl

theorem switch_other (member : rule ∈ Rule.all) (other : rule.pattern.slot ≠ slot) (on : Bool) :
    (rules.switch slot on).ofRule rule = rules.ofRule rule := by
  rw [of_rule_slot member, of_rule_slot member]
  exact if_neg other

theorem detect_switch (rules : Rules) (classes : List ClassModel) (member : rule ∈ Rule.all) :
    detect (rules.switch rule.pattern.slot false) classes =
      (detect (rules.switch rule.pattern.slot true) classes).filter fun detection =>
        decide (detection.pattern ≠ rule.pattern) := by
  rw [detect_filter fun pattern => decide (pattern ≠ rule.pattern), detect_contributions,
    Syntax.flat_map_filter]
  apply List.flatMap_congr
  intro other present
  by_cases own : other.pattern = rule.pattern
  · obtain rfl : other = rule := by rw [← rule_of_mem present, own, rule_of_mem member]
    simp [contribution, switch_own member]
  · have apart : other.pattern.slot ≠ rule.pattern.slot := fun same => own (slot_injective same)
    simp [contribution, switch_other present apart, own]

end Detections

section Classes

-- The items that give a result, by their positions.
theorem filter_map_sites {α β : Type} (f : α → Option β) (items : List α) :
    ∃ sites : List Nat, sites.Pairwise (· < ·) ∧
      List.Forall₂ (fun site found => ∃ item, items[site]? = some item ∧ f item = some found)
        sites (items.filterMap f) := by
  induction items with
  | nil => exact ⟨[], List.Pairwise.nil, List.Forall₂.nil⟩
  | cons item items ih =>
      obtain ⟨sites, ascending, found⟩ := ih
      have shifted : (sites.map (· + 1)).Pairwise (· < ·) :=
        ascending.map _ fun _ _ before => Nat.succ_lt_succ before
      have later : List.Forall₂
          (fun site found => ∃ other, (item :: items)[site]? = some other ∧ f other = some found)
          (sites.map (· + 1)) (items.filterMap f) :=
        List.forall₂_map_left_iff.mpr found
      cases result : f item with
      | none => exact ⟨_, shifted, by rwa [List.filterMap_cons_none result]⟩
      | some value =>
          rw [List.filterMap_cons_some result]
          refine ⟨0 :: sites.map (· + 1), List.pairwise_cons.mpr ⟨?_, shifted⟩,
            List.Forall₂.cons ⟨item, rfl, result⟩ later⟩
          simp

/-- The detections were made by a rule on some of the classes, at most one on each, and in their
order. -/
def FollowClasses (judge : ClassModel → Option Detection) (classes : List ClassModel)
    (detections : List Detection) : Prop :=
  ∃ sites : List Nat, sites.Pairwise (· < ·) ∧
    List.Forall₂
      (fun site detection => ∃ cls, classes[site]? = some cls ∧ judge cls = some detection ∧
        detection.className = some cls.name)
      sites detections

theorem detections_follow (rules : Rules) (classes : List ClassModel) {pattern : Pattern}
    (single : pattern ≠ .mvc) :
    ∃ judge, pattern.rule.JudgesBy judge ∧
      FollowClasses (judge classes (rules.ofRule pattern.rule).detectAntipatterns) classes
        (contribution rules classes pattern.rule) := by
  obtain ⟨judge, byClass, judged⟩ := rule_judges single
  refine ⟨judge, byClass, ?_⟩
  unfold contribution
  split
  next =>
    rw [byClass]
    obtain ⟨sites, ascending, found⟩ := filter_map_sites (judge classes _) classes
    refine ⟨sites, ascending, found.imp ?_⟩
    rintro site detection ⟨cls, here, made⟩
    exact ⟨cls, here, made, (judged classes _ cls detection made).1⟩
  next => exact ⟨[], List.Pairwise.nil, List.Forall₂.nil⟩

theorem mvc_alone (rules : Rules) (classes : List ClassModel) :
    (contribution rules classes Pattern.mvc.rule).length ≤ 1 := by
  have few : ∀ flag, (detectMvc classes flag).length ≤ 1 := by
    intro flag
    unfold detectMvc
    dsimp only
    split <;> simp
  unfold contribution
  split
  next => exact few (rules.ofRule Pattern.mvc.rule).detectAntipatterns
  next => exact Nat.zero_le 1

end Classes

section Reports

variable {rules : Rules} {classes : List ClassModel}

/-- What a violation says of the detection it reports: its severity is that of the rule with the pattern
and the category of the detection. -/
structure ReportedAs (rules : Rules) (detection : Detection) (violation : Violation) : Prop where
  rule : violation.rule = "pattern-" ++ detection.pattern.label
  pattern : violation.pattern = some detection.pattern
  category : violation.category = some detection.category
  severity : ∃ rule ∈ Rule.all, rule.pattern = detection.pattern ∧
    rule.category = detection.category ∧ violation.severity = (rules.ofRule rule).severity

theorem violations_report : List.Forall₂ (ReportedAs rules) (detect rules classes)
    ((detect rules classes).map (violationOf rules)) := by
  rw [List.forall₂_map_right_iff, List.forall₂_same]
  intro detection given
  obtain ⟨rule, member, -, own⟩ := mem_detect given
  have sound := evaluate_sound member classes _ detection own
  refine ⟨rfl, rfl, rfl, rule, member, sound.pattern.symm, sound.category.symm, ?_⟩
  rw [violationOf, sound.pattern, sound.category, Rules.ofRule]

def Rule.path (rule : Rule) : List String := ["rules", rule.category.label, rule.pattern.key]

theorem slot_path {rule : Rule} (member : rule ∈ Rule.all) : rule.pattern.slot.path = rule.path := by
  rw [Slot.path, Rule.path, category_of_mem member]
  rfl

/-- Patterns are looked for one by one. Detections carry the pattern and the category of the rule that
made them and follow the order of the rules and of the classes. Every rule has settings of its own, found
under its category and its name, which switch it without touching the others and which give its
violations their severity. -/
theorem patterns_isolated (rules : Rules) (classes : List ClassModel) :
    (∀ rule ∈ Rule.all, ∀ flag, ∀ detection ∈ rule.evaluate classes flag,
      detection.pattern = rule.pattern ∧ detection.category = rule.category) ∧
    (∀ rule ∈ Rule.all, ∃ slot, Slot.find? rule.category rule.pattern = some slot ∧
      detect (rules.switch slot false) classes =
        (detect (rules.switch slot true) classes).filter fun detection =>
          decide (detection.pattern ≠ rule.pattern)) ∧
    ((detect rules classes).Pairwise fun first second =>
      first.pattern.rank ≤ second.pattern.rank ∧ first.category.rank ≤ second.category.rank) ∧
    (∀ rule ∈ Rule.all, rule.pattern ≠ .mvc → ∃ judge, rule.JudgesBy judge ∧
      FollowClasses (judge classes (rules.ofRule rule).detectAntipatterns) classes
        ((detect rules classes).filter fun detection =>
          decide (detection.pattern = rule.pattern))) ∧
    ((detect rules classes).filter fun detection =>
      decide (detection.pattern = .mvc)).length ≤ 1 ∧
    (∀ filename, let report := reportOn rules filename classes
      report.detections = detect rules classes ∧
      List.Forall₂ (ReportedAs rules) report.detections report.violations ∧
      report.rulesEvaluated = Rule.all.countP fun rule => (rules.ofRule rule).enabled) ∧
    (∀ code filename root, parse code = .ok root →
      validate rules code filename = reportOn rules filename (Java.classes root)) ∧
    (∀ data, (Rules.check data).toExcept = .ok rules → ∀ rule ∈ Rule.all,
      rules.ofRule rule = configured data rule.path ∧
      (data.descend rule.path = none → (rules.ofRule rule).enabled = false)) ∧
    Pattern.all.Nodup ∧ Function.Injective Pattern.label := by
  refine ⟨?labelled, ?switched, detect_ordered, ?follow, ?single, ?reported, ?validated, ?configured,
    patterns_distinct, label_injective⟩
  case labelled =>
    intro rule member flag detection given
    have sound := evaluate_sound member classes flag detection given
    exact ⟨sound.pattern, sound.category⟩
  case switched =>
    intro rule member
    exact ⟨_, slot_found member, detect_switch rules classes member⟩
  case follow =>
    intro rule member single
    rw [detect_own member]
    obtain ⟨judge, byClass, follow⟩ := detections_follow rules classes single
    rw [rule_of_mem member] at byClass follow
    exact ⟨judge, byClass, follow⟩
  case single =>
    have own := @detect_own rules classes _ (rule_mem .mvc)
    rw [rule_pattern] at own
    rw [own]
    exact mvc_alone rules classes
  case reported =>
    intro filename
    exact ⟨rfl, violations_report, rfl⟩
  case validated =>
    intro code filename root parsed
    rw [validate, parsed, reportOnTree]
  case configured =>
    intro data accepted rule member
    obtain rfl := Config.to_except_value accepted
    rw [of_rule_slot member, ← slot_path member]
    refine ⟨check_configured data _, fun omitted => ?_⟩
    rw [omitted_rule omitted]

end Reports

end PatternInspector.Java
