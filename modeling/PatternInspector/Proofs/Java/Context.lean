import Mathlib.Data.List.Basic
import Mathlib.Data.List.Flatten
import Mathlib.Data.List.Perm.Basic
import PatternInspector.Proofs.Java.Registry

/-!
What a rule makes of the classes around the one it judges. Almost all rules see a single class. The
others ask which classes of some kind there are, never whether one is missing, and they ask for the
number of classes only where they explain themselves. So further classes can add detections and
evidence but take no detection away, and the order of the classes decides about nothing but the order
of the detections.
-/
namespace PatternInspector.Java

section Unit

/-- The patterns whose rules look beyond a single class. -/
def unitPatterns : List Pattern := [.builder, .memento, .mvc, .compositeEntity]

theorem local_rule {pattern : Pattern} (single : pattern ∉ unitPatterns) :
    ∃ judge, pattern.rule.JudgesBy judge ∧
      ∀ few many flag cls, judge few flag cls = judge many flag cls := by
  cases pattern
  case builder | memento | mvc | compositeEntity => exact absurd (by decide) single
  all_goals exact ⟨_, fun _ _ => rfl, fun _ _ _ _ => rfl⟩

end Unit

section Verdicts

structure Verdict where
  pattern : Pattern
  category : Category
  confidence : Confidence
  className : Option String
  methodName : Option String
  line : Option Int
  antipatterns : List String
  deriving DecidableEq

def Detection.verdict (detection : Detection) : Verdict where
  pattern := detection.pattern
  category := detection.category
  confidence := detection.confidence
  className := detection.className
  methodName := detection.methodName
  line := detection.line
  antipatterns := detection.antipatterns

end Verdicts

section Growth

variable {rule : Rule} {few many : List ClassModel}

/-- A detection made before is made again, perhaps with other evidence. -/
def Survives (before after : Option Detection) : Prop :=
  ∀ detection, before = some detection → ∃ evidence, after = some { detection with evidence }

theorem survives_same (outcome : Option Detection) : Survives outcome outcome := by
  intro detection found
  exact ⟨detection.evidence, found⟩

theorem survives_if {before after : Prop} [Decidable before] [Decidable after]
    {old new : Detection} (stays : before → after)
    (alike : { old with evidence := new.evidence } = new) :
    Survives (if before then some old else none) (if after then some new else none) := by
  intro detection found
  obtain ⟨holds, given⟩ := Option.ite_none_right_eq_some.mp found
  obtain rfl := Option.some.inj given
  exact ⟨new.evidence, by rw [if_pos (stays holds), alike]⟩

theorem verdict_survives {before after : Option Detection} {verdict : Verdict}
    (survives : Survives before after) (given : before.map Detection.verdict = some verdict) :
    after.map Detection.verdict = some verdict := by
  obtain ⟨detection, found, rfl⟩ := Option.map_eq_some_iff.mp given
  obtain ⟨evidence, again⟩ := survives detection found
  rw [again]
  rfl

theorem filter_map_stays {α β : Type} {before after : α → Option β} (items : List α)
    (stays : ∀ item result, before item = some result → after item = some result) :
    (items.filterMap before).Sublist (items.filterMap after) := by
  rw [List.filterMap_eq_flatMap_toList, List.filterMap_eq_flatMap_toList]
  apply List.Sublist.flatMap_right
  intro item _
  cases given : before item with
  | none => exact List.nil_sublist _
  | some result => rw [stays item result given]

def Rule.Grows (rule : Rule) : Prop :=
  ∀ few many flag, few.Sublist many →
    ((rule.evaluate few flag).map Detection.verdict).Sublist
      ((rule.evaluate many flag).map Detection.verdict)

-- First every class is judged again among more classes, then the new ones are judged too.
theorem grows_by_class {judge : List ClassModel → Bool → ClassModel → Option Detection}
    (byClass : rule.JudgesBy judge)
    (survives : ∀ few many flag cls, few ⊆ many →
      Survives (judge few flag cls) (judge many flag cls)) : rule.Grows := by
  intro few many flag grown
  rw [byClass, byClass, List.map_filterMap, List.map_filterMap]
  apply List.Sublist.trans (filter_map_stays few _) (grown.filterMap _)
  intro cls verdict
  exact verdict_survives (survives few many flag cls grown.subset)

theorem any_grows {accepts : ClassModel → Bool} (grown : few ⊆ many)
    (found : few.any accepts = true) : many.any accepts = true := by
  obtain ⟨cls, member, accepted⟩ := List.any_eq_true.mp found
  exact List.any_eq_true.mpr ⟨cls, grown member, accepted⟩

theorem occupied_grows {accepts : ClassModel → Bool} (grown : few ⊆ many)
    (found : few.filter accepts ≠ []) : many.filter accepts ≠ [] := by
  obtain ⟨cls, member⟩ := List.exists_mem_of_ne_nil _ found
  exact List.ne_nil_of_mem (List.filter_subset accepts grown member)

theorem entity_names_grow (grown : few ⊆ many) : entityNames few ⊆ entityNames many := by
  apply List.map_subset
  exact List.filter_subset _ grown

theorem builder_grows : Pattern.builder.rule.Grows := by
  refine grows_by_class (fun _ _ => rfl) fun few many flag cls grown => ?_
  apply survives_if
  · intro holds
    simp only [Bool.and_eq_true, Bool.or_eq_true] at holds ⊢
    obtain ⟨(named | found) | builds, fluent⟩ := holds
    · exact ⟨.inl (.inl named), fluent⟩
    · exact ⟨.inl (.inr (any_grows grown found)), fluent⟩
    · exact ⟨.inr builds, fluent⟩
  · rfl

-- The other classes are looked at for the evidence only.
theorem memento_grows : Pattern.memento.rule.Grows := by
  refine grows_by_class (fun _ _ => rfl) fun few many flag cls _ => ?_
  apply survives_if
  · exact id
  · rfl

theorem composite_entity_grows : Pattern.compositeEntity.rule.Grows := by
  refine grows_by_class (fun _ _ => rfl) fun few many flag cls grown => ?_
  have entities := entity_names_grow grown
  apply survives_if
  · intro holds
    simp only [Bool.and_eq_true, List.contains_iff_mem, decide_eq_true_eq] at holds ⊢
    constructor
    · exact entities holds.1
    · apply Nat.le_trans holds.2
      apply List.Sublist.length_le
      apply List.monotone_filter_right
      intro field
      simp only [Bool.and_eq_true, List.contains_iff_mem]
      exact And.imp_left (@entities field.type)
  · rfl

theorem verdict_if {before after : Prop} [Decidable before] [Decidable after] {old new : Detection}
    (stays : before → after) (alike : old.verdict = new.verdict) :
    ((if before then [old] else []).map Detection.verdict).Sublist
      ((if after then [new] else []).map Detection.verdict) := by
  split
  next holds =>
    rw [if_pos (stays holds), List.map_singleton, List.map_singleton, alike]
  next => exact List.nil_sublist _

theorem mvc_grows : Pattern.mvc.rule.Grows := by
  intro few many flag grown
  refine verdict_if ?_ rfl
  intro holds
  simp only [Bool.and_eq_true, Bool.not_eq_true', List.isEmpty_eq_false_iff] at holds ⊢
  exact ⟨occupied_grows grown.subset holds.1, occupied_grows grown.subset holds.2⟩

theorem rule_grows (pattern : Pattern) : pattern.rule.Grows := by
  by_cases wide : pattern ∈ unitPatterns
  · simp only [unitPatterns, List.mem_cons, List.not_mem_nil, or_false] at wide
    rcases wide with rfl | rfl | rfl | rfl
    · exact builder_grows
    · exact memento_grows
    · exact mvc_grows
    · exact composite_entity_grows
  · obtain ⟨judge, byClass, alone⟩ := local_rule wide
    refine grows_by_class byClass fun few many flag cls _ => ?_
    rw [alone few many]
    exact survives_same _

/-- Further classes take away no detection and change none but for its evidence. -/
theorem verdicts_grow (rules : Rules) {few many : List ClassModel} (grown : few.Sublist many) :
    ((detect rules few).map Detection.verdict).Sublist
      ((detect rules many).map Detection.verdict) := by
  rw [detect, detect, List.map_flatMap, List.map_flatMap]
  apply List.Sublist.flatMap_right
  intro rule member
  have grows := rule_grows rule.pattern
  rw [rule_of_mem member] at grows
  dsimp only
  split
  next => exact grows few many _ grown
  next => exact List.Sublist.refl _

def fluentOrder : ClassModel where
  name := "Order"
  methods := ["withItem", "withPrice", "build"].map fun name =>
    { name, returnType := some "Order" }

def lookingFor (pattern : Pattern) : Rules := Rules.set {} pattern.slot { enabled := true }

-- The builder class stands first and is further evidence for what was detected without it.
theorem builder_joins_order :
    [fluentOrder].Sublist [{ name := "OrderBuilder" }, fluentOrder] ∧
    (detect (lookingFor .builder) [fluentOrder]).map (·.evidence.length) = [2] ∧
    (detect (lookingFor .builder) [{ name := "OrderBuilder" }, fluentOrder]).map
      (·.evidence.length) = [3] ∧
    ((detect (lookingFor .builder) [fluentOrder]).map Detection.verdict).Sublist
      ((detect (lookingFor .builder) [{ name := "OrderBuilder" }, fluentOrder]).map
        Detection.verdict) :=
  ⟨List.sublist_cons_self _ _, by decide +kernel, by decide +kernel,
    verdicts_grow _ (List.sublist_cons_self _ _)⟩

end Growth

section Order

variable {rule : Rule} {classes others : List ClassModel}

theorem entity_names_unordered (same : classes.Perm others) (name : String) :
    (entityNames classes).contains name = (entityNames others).contains name :=
  ((same.filter _).map _).contains_eq

/-- The order of the classes decides about the order of the detections only. -/
def Rule.Unordered (rule : Rule) : Prop :=
  ∀ classes others flag, classes.Perm others →
    (rule.evaluate classes flag).Perm (rule.evaluate others flag)

theorem unordered_by_class {judge : List ClassModel → Bool → ClassModel → Option Detection}
    (byClass : rule.JudgesBy judge)
    (alike : ∀ classes others flag cls, classes.Perm others →
      judge classes flag cls = judge others flag cls) : rule.Unordered := by
  intro classes others flag same
  have context : judge classes flag = judge others flag :=
    funext fun cls => alike classes others flag cls same
  rw [byClass, byClass, context]
  exact same.filterMap _

theorem builder_unordered : Pattern.builder.rule.Unordered := by
  refine unordered_by_class (fun _ _ => rfl) fun classes others flag cls same => ?_
  simp only [detectBuilder, same.any_eq]

theorem memento_unordered : Pattern.memento.rule.Unordered := by
  refine unordered_by_class (fun _ _ => rfl) fun classes others flag cls same => ?_
  simp only [detectMemento, same.any_eq]

theorem mvc_unordered : Pattern.mvc.rule.Unordered := by
  intro classes others flag same
  change (detectMvc classes flag).Perm (detectMvc others flag)
  simp only [detectMvc, (same.filter _).isEmpty_eq, (same.filter _).length_eq]
  exact List.Perm.refl _

theorem composite_entity_unordered : Pattern.compositeEntity.rule.Unordered := by
  refine unordered_by_class (fun _ _ => rfl) fun classes others flag cls same => ?_
  simp only [entity_names_unordered same]

theorem rule_unordered (pattern : Pattern) : pattern.rule.Unordered := by
  by_cases wide : pattern ∈ unitPatterns
  · simp only [unitPatterns, List.mem_cons, List.not_mem_nil, or_false] at wide
    rcases wide with rfl | rfl | rfl | rfl
    · exact builder_unordered
    · exact memento_unordered
    · exact mvc_unordered
    · exact composite_entity_unordered
  · obtain ⟨judge, byClass, alone⟩ := local_rule wide
    exact unordered_by_class byClass fun classes others flag cls _ => alone classes others flag cls

/-- Declarations in another order give the same detections in another order, with the same evidence. -/
theorem detections_unordered (rules : Rules) {classes others : List ClassModel}
    (same : classes.Perm others) : (detect rules classes).Perm (detect rules others) := by
  apply List.Perm.flatMap_left
  intro rule member
  have unordered := rule_unordered rule.pattern
  rw [rule_of_mem member] at unordered
  dsimp only
  split
  next => exact unordered classes others _ same
  next => exact List.Perm.refl _

def entityUnit : List ClassModel := [
  { name := "Order", annotations := ["Entity"],
    fields := [{ name := "customer", type := "Customer" }, { name := "address", type := "Address" }] },
  { name := "Customer", annotations := ["Entity"] },
  { name := "Address", annotations := ["Entity"] }]

theorem entities_reversed :
    entityUnit.Perm entityUnit.reverse ∧
    (detect (lookingFor .compositeEntity) entityUnit).map (·.className) = [some "Order"] ∧
    (detect (lookingFor .compositeEntity) entityUnit).Perm
      (detect (lookingFor .compositeEntity) entityUnit.reverse) :=
  ⟨(List.reverse_perm _).symm, by decide +kernel,
    detections_unordered _ (List.reverse_perm _).symm⟩

end Order

end PatternInspector.Java
