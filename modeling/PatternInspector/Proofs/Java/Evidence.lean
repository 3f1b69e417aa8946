import PatternInspector.Proofs.Finding.Evidence
import PatternInspector.Proofs.Java.Registry

/-!
What stands behind the detections of a rule: a detection carries the labels of the rule, one on a class
names that class, and each has as much evidence as its confidence needs.

Most rules list the same pieces whenever they fire. The others collect one piece for each sign they
saw, and their condition has to be met by enough signs.
-/
namespace PatternInspector.Java

-- The conditions are compared as they stand; no name is ever searched here.
attribute [local irreducible] mentions

section Outcomes

variable {pattern : Pattern} {category : Category} {cls : ClassModel}

structure Sound (pattern : Pattern) (category : Category) (detection : Detection) : Prop where
  pattern : detection.pattern = pattern
  category : detection.category = category
  backed : Backed detection.confidence detection.evidence

def Judged (pattern : Pattern) (category : Category) (cls : ClassModel)
    (outcome : Option Detection) : Prop :=
  ∀ detection, outcome = some detection →
    detection.className = some cls.name ∧ Sound pattern category detection

theorem judged_none : Judged pattern category cls none := by
  intro detection found
  cases found

theorem judged_some {detection : Detection} (named : detection.className = some cls.name)
    (sound : Sound pattern category detection) : Judged pattern category cls (some detection) := by
  intro other found
  cases found
  exact ⟨named, sound⟩

theorem judged_at {confidence : Confidence} {evidence antipatterns : List String}
    (backed : Backed confidence evidence) :
    Judged pattern category cls
      (some (detectionAt pattern category cls confidence evidence antipatterns)) :=
  judged_some rfl ⟨rfl, rfl, backed⟩

theorem judged_if {condition : Prop} [Decidable condition] {confidence : Confidence}
    {evidence antipatterns : List String} (backed : condition → Backed confidence evidence) :
    Judged pattern category cls
      (if condition then some (detectionAt pattern category cls confidence evidence antipatterns)
        else none) := by
  split
  next holds => exact judged_at (backed holds)
  next => exact judged_none

@[simp] theorem length_pair_if (condition : Bool) (first second : String) :
    (if condition = true then [first, second] else []).length = 2 * condition.toNat := by
  cases condition <;> rfl

@[simp] theorem length_to_list {α : Type} (value : Option α) :
    value.toList.length = value.isSome.toNat := by
  cases value <;> rfl

end Outcomes

section Signs

variable (cls : ClassModel) (classes : List ClassModel) (flag : Bool)

theorem singleton_judged :
    Judged .singleton .creational cls (detectSingleton cls classes flag) := by
  refine judged_if fun holds => backed_two ?_
  have signs := one_sign (Bool.and_eq_true_iff.mp holds).2
  simp only [List.length_append, List.length_singleton, length_note_if, List.length_map,
    length_to_list]
  omega

theorem builder_judged : Judged .builder .creational cls (detectBuilder cls classes flag) := by
  refine judged_if fun holds => backed_two ?_
  have signs := one_sign (Bool.and_eq_true_iff.mp holds).1
  simp only [List.length_append, List.length_singleton, length_note_if]
  omega

theorem decorator_judged :
    Judged .decorator .structural cls (detectDecorator cls classes flag) := by
  refine judged_if fun holds => backed_one Confidence.noConfusion ?_
  have signs := one_sign (Bool.and_eq_true_iff.mp holds).1
  have joint := joint_sign_le cls.extends'.isSome (!cls.instanceFields.isEmpty)
  simp only [List.length_append, length_note_if, List.length_map, length_to_list]
  omega

theorem strategy_judged : Judged .strategy .behavioral cls (detectStrategy cls classes flag) := by
  refine judged_if fun holds => backed_high_if ?_ fun certain => ?_
  · have signs := one_sign holds
    have joint := joint_sign_le (cls.fields.any fun f => mentions f.type ["strategy", "algorithm"])
      (cls.hasMethodLike ["execute", "perform", "calculate"])
    simp only [List.length_append, length_pair_if, length_note_if]
    omega
  · have sign := sign_seen certain
    simp only [List.length_append, length_pair_if, length_note_if]
    omega

theorem command_judged : Judged .command .behavioral cls (detectCommand cls classes flag) := by
  refine judged_if fun holds => backed_two ?_
  have signs := one_sign (Bool.and_eq_true_iff.mp holds).2
  simp only [List.length_append, List.length_singleton, length_note_if]
  omega

theorem state_judged : Judged .state .behavioral cls (detectState cls classes flag) := by
  refine judged_if fun holds => backed_one Confidence.noConfusion ?_
  have signs := one_sign holds
  have joint := joint_sign_le (cls.fields.any fun f => mentions f.type ["state"])
    (cls.hasMethodLike ["state", "transition"])
  simp only [List.length_append, length_note_if]
  omega

theorem iterator_judged : Judged .iterator .behavioral cls (detectIterator cls classes flag) := by
  refine judged_if fun holds => backed_high_if ?_ fun certain => ?_
  · have signs := one_sign holds
    simp only [List.length_append, length_note_if]
    omega
  · have declared := sign_seen (Bool.and_eq_true_iff.mp certain).1
    have offered := sign_seen (Bool.and_eq_true_iff.mp certain).2
    simp only [List.length_append, length_note_if]
    omega

theorem visitor_judged : Judged .visitor .behavioral cls (detectVisitor cls classes flag) := by
  refine judged_if fun holds => backed_one Confidence.noConfusion ?_
  have signs := one_sign holds
  have joint := joint_sign_le (cls.isNamed ["visitor"])
    (decide (2 ≤ (cls.ownMethods.filter fun m => startsWith m.name "visit").length))
  simp only [List.length_append, length_note_if]
  omega

theorem repository_judged :
    Judged .repository .enterprise cls (detectRepository cls classes flag) := by
  refine judged_if fun holds => backed_high_if ?_ fun certain => of_decide_eq_true certain
  have signs := one_sign holds
  simp only [List.length_append, length_note_if, List.length_map, length_to_list]
  omega

theorem dto_judged : Judged .dto .enterprise cls (detectDto cls classes flag) := by
  refine judged_if fun holds => backed_two ?_
  have signs := one_sign (Bool.and_eq_true_iff.mp holds).1
  have joint := joint_sign_le (cls.ownMethods.all isAccessor && decide (2 ≤ cls.fields.length))
    (cls.ownMethods.all fun m => isAccessor m || isObjectMethod m)
  simp only [List.length_append, List.length_singleton, length_note_if]
  omega

theorem dependency_injection_judged :
    Judged .dependencyInjection .modern cls (detectDependencyInjection cls classes flag) := by
  refine judged_if fun holds => backed_high_if ?_ fun certain => of_decide_eq_true certain
  simp only [List.length_append, length_note_if]
  rcases Bool.or_eq_true_iff.mp holds with marked | byConstructor
  · have signs := one_sign marked
    omega
  · have sign := sign_seen byConstructor
    omega

theorem circuit_breaker_judged :
    Judged .circuitBreaker .modern cls (detectCircuitBreaker cls classes flag) := by
  refine judged_if fun holds => backed_high_if ?_ fun certain => ?_
  · simp only [List.length_append, length_pair_if, length_note_if]
    rcases Bool.or_eq_true_iff.mp holds with named | states
    · have signs := one_sign named
      omega
    · have sign := sign_seen states
      omega
  · have sign := sign_seen certain
    simp only [List.length_append, length_pair_if, length_note_if]
    omega

theorem unit_of_work_judged :
    Judged .unitOfWork .modern cls (detectUnitOfWork cls classes flag) := by
  refine judged_if fun holds => backed_one Confidence.noConfusion ?_
  have signs := one_sign holds
  have joint := joint_sign_le (cls.hasMethod "commit" && cls.hasMethod "rollback")
    (cls.methodNames.any (startsWith · "register"))
  simp only [List.length_append, length_note_if]
  omega

end Signs

section Branches

variable (cls : ClassModel) (classes : List ClassModel) (flag : Bool)

theorem factory_method_judged :
    Judged .factoryMethod .creational cls (detectFactoryMethod cls classes flag) := by
  unfold detectFactoryMethod
  split
  next => exact judged_none
  next => exact judged_at (backed_two (Nat.le_refl 2))

theorem template_method_judged :
    Judged .templateMethod .behavioral cls (detectTemplateMethod cls classes flag) := by
  unfold detectTemplateMethod
  dsimp only
  split
  next => exact judged_none
  next method _ =>
    split
    next => exact judged_some rfl ⟨rfl, rfl, backed_two (by simp)⟩
    next => exact judged_none

end Branches

section Rules

/-- The rule judges class by class, and its outcomes are sound. -/
def Rule.Judges (rule : Rule) : Prop :=
  ∃ judge, rule.JudgesBy judge ∧
    ∀ classes flag cls, Judged rule.pattern rule.category cls (judge classes flag cls)

theorem per_class_judges {pattern : Pattern} {category : Category} {judge : ClassRule}
    (judged : ∀ cls classes flag, Judged pattern category cls (judge cls classes flag)) :
    (Rule.perClass category pattern judge).Judges :=
  ⟨_, fun _ _ => rfl, fun classes flag cls => judged cls classes flag⟩

theorem front_controller_judges : Pattern.frontController.rule.Judges := by
  refine ⟨_, fun _ _ => rfl, fun classes flag cls => judged_if fun holds => backed_two ?_⟩
  have signs := one_sign holds
  simp only [List.length_append, List.length_singleton, length_note_if]
  omega

theorem session_facade_judges : Pattern.sessionFacade.rule.Judges := by
  refine ⟨_, fun _ _ => rfl, fun classes flag cls => ?_⟩
  dsimp only
  split
  next => exact judged_at (backed_two (Nat.le_refl 2))
  next => exact judged_if fun _ => backed_two (Nat.le_refl 2)

theorem rule_judges {pattern : Pattern} (single : pattern ≠ .mvc) : pattern.rule.Judges := by
  cases pattern
  case mvc => exact absurd rfl single
  case frontController => exact front_controller_judges
  case sessionFacade => exact session_facade_judges
  -- Rules that list the same two or three pieces whenever they fire.
  case abstractFactory | prototype | adapter | proxy | composite | bridge | flyweight | observer |
      chainOfResponsibility | mediator | interpreter | dao | valueObject | dataMapper |
      activeRecord | businessDelegate | serviceLocator | transferObjectAssembler |
      compositeEntity | saga =>
    exact ⟨_, fun _ _ => rfl, fun _ _ _ => judged_if fun _ => backed_two (by simp)⟩
  -- Rules that add pieces to some that are always there.
  case facade | memento | serviceLayer =>
    exact ⟨_, fun _ _ => rfl, fun _ _ _ => judged_if fun _ => backed_two (by simp)⟩
  case cqrs | eventSourcing =>
    exact ⟨_, fun _ _ => rfl, fun _ _ _ => judged_if fun _ =>
      backed_one Confidence.noConfusion (by simp [← Nat.add_assoc])⟩
  case singleton => exact per_class_judges singleton_judged
  case builder => exact per_class_judges builder_judged
  case factoryMethod => exact per_class_judges factory_method_judged
  case decorator => exact per_class_judges decorator_judged
  case strategy => exact per_class_judges strategy_judged
  case templateMethod => exact per_class_judges template_method_judged
  case command => exact per_class_judges command_judged
  case state => exact per_class_judges state_judged
  case iterator => exact per_class_judges iterator_judged
  case visitor => exact per_class_judges visitor_judged
  case repository => exact per_class_judges repository_judged
  case dto => exact per_class_judges dto_judged
  case dependencyInjection => exact per_class_judges dependency_injection_judged
  case circuitBreaker => exact per_class_judges circuit_breaker_judged
  case unitOfWork => exact per_class_judges unit_of_work_judged

theorem mvc_sound (classes : List ClassModel) (flag : Bool) :
    ∀ detection ∈ detectMvc classes flag, Sound .mvc .architectural detection := by
  unfold detectMvc
  dsimp only
  split
  next =>
    rw [List.forall_mem_singleton]
    exact ⟨rfl, rfl, backed_two (by simp)⟩
  next => exact List.forall_mem_nil _

/-- The detections of a rule carry its labels and are backed by evidence. -/
theorem evaluate_sound {rule : Rule} (member : rule ∈ Rule.all) (classes : List ClassModel)
    (flag : Bool) :
    ∀ detection ∈ rule.evaluate classes flag, Sound rule.pattern rule.category detection := by
  revert rule
  apply forall_rules
  intro pattern detection given
  by_cases whole : pattern = .mvc
  · subst whole
    exact mvc_sound classes flag detection given
  · obtain ⟨judge, byClass, judged⟩ := rule_judges whole
    rw [byClass classes flag] at given
    obtain ⟨cls, -, found⟩ := List.mem_filterMap.mp given
    exact (judged classes flag cls detection found).2

theorem mem_detect {rules : Rules} {classes : List ClassModel} {detection : Detection}
    (given : detection ∈ detect rules classes) :
    ∃ rule ∈ Rule.all, (rules.ofRule rule).enabled = true ∧
      detection ∈ rule.evaluate classes (rules.ofRule rule).detectAntipatterns := by
  obtain ⟨rule, member, own⟩ := List.mem_flatMap.mp given
  refine ⟨rule, member, ?_⟩
  dsimp only at own
  split at own
  next enabled => exact ⟨enabled, own⟩
  next => cases own

theorem detect_backed (rules : Rules) (classes : List ClassModel) :
    ∀ detection ∈ detect rules classes, Backed detection.confidence detection.evidence := by
  intro detection given
  obtain ⟨rule, member, -, own⟩ := mem_detect given
  exact (evaluate_sound member classes _ detection own).backed

end Rules

end PatternInspector.Java
