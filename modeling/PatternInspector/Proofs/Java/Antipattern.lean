import Mathlib.Data.List.Basic
import Mathlib.Data.List.Flatten
import PatternInspector.Proofs.Java.Evidence

/-!
Anti-patterns beside detections. A rule is told whether they are asked for, and it answers with the notes
on its detections and with nothing else: which classes are detected, in which order and why is the same
either way. Seven rules look at the question at all.
-/
namespace PatternInspector.Java

-- The conditions are compared as they stand; no name is ever searched here.
attribute [local irreducible] mentions

section Notes

variable {rule : Rule} {pattern : Pattern}

def Detection.withoutAntipatterns (detection : Detection) : Detection :=
  { detection with antipatterns := [] }

/-- Asking decides about the notes on the detections of a rule and about nothing else. -/
def Rule.NotesOnly (rule : Rule) : Prop :=
  ∀ classes, rule.evaluate classes false =
    (rule.evaluate classes true).map Detection.withoutAntipatterns

theorem notes_by_class {judge : List ClassModel → Bool → ClassModel → Option Detection}
    (byClass : rule.JudgesBy judge)
    (each : ∀ classes cls, judge classes false cls =
      (judge classes true cls).map Detection.withoutAntipatterns) : rule.NotesOnly := by
  intro classes
  rw [byClass, byClass, List.map_filterMap]
  exact congrArg (List.filterMap · classes) (funext (each classes))

-- The condition is the same on both sides, so a rule that looked at the question would not fit.
theorem notes_if {condition : Prop} [Decidable condition] {unasked asked : Detection}
    {otherwise : Option Detection} (same : unasked = asked.withoutAntipatterns)
    (silent : otherwise = otherwise.map Detection.withoutAntipatterns) :
    (if condition then some unasked else otherwise) =
      (if condition then some asked else otherwise).map Detection.withoutAntipatterns := by
  split
  next => rw [same, Option.map_some]
  next => exact silent

theorem factory_method_notes : Pattern.factoryMethod.rule.NotesOnly := by
  refine notes_by_class (fun _ _ => rfl) fun classes cls => ?_
  unfold detectFactoryMethod
  split <;> rfl

theorem template_method_notes : Pattern.templateMethod.rule.NotesOnly := by
  refine notes_by_class (fun _ _ => rfl) fun classes cls => ?_
  unfold detectTemplateMethod
  dsimp only
  split
  next => rfl
  next => exact notes_if rfl rfl

theorem mvc_notes : Pattern.mvc.rule.NotesOnly := by
  intro classes
  change detectMvc classes false = (detectMvc classes true).map Detection.withoutAntipatterns
  unfold detectMvc
  dsimp only
  split <;> rfl

theorem rule_notes (pattern : Pattern) : pattern.rule.NotesOnly := by
  cases pattern
  case factoryMethod => exact factory_method_notes
  case templateMethod => exact template_method_notes
  case mvc => exact mvc_notes
  case sessionFacade =>
    exact notes_by_class (fun _ _ => rfl) fun _ _ => notes_if rfl (notes_if rfl rfl)
  -- With the answer no, the notes of the seven rules that have some are empty by evaluation.
  all_goals exact notes_by_class (fun _ _ => rfl) fun _ _ => notes_if rfl rfl

theorem unasked_without_notes (pattern : Pattern) (classes : List ClassModel) :
    ∀ detection ∈ pattern.rule.evaluate classes false, detection.antipatterns = [] := by
  intro detection given
  rw [rule_notes pattern classes] at given
  obtain ⟨asked, -, rfl⟩ := List.mem_map.mp given
  rfl

end Notes

section Noting

def notingPatterns : List Pattern := [
  .singleton, .dao, .repository, .dto, .serviceLayer, .serviceLocator, .dependencyInjection]

theorem asking_ignored {pattern : Pattern} (other : pattern ∉ notingPatterns)
    (classes : List ClassModel) :
    pattern.rule.evaluate classes false = pattern.rule.evaluate classes true := by
  cases pattern
  case singleton | dao | repository | dto | serviceLayer | serviceLocator | dependencyInjection =>
    exact absurd (by decide) other
  all_goals rfl

def carelessUnit : List ClassModel := [
  { name := "Registry"
    methods := [{ name := "Registry", isPrivate := true },
      { name := "getInstance", isStatic := true, isPublic := true, returnType := "Registry" }] },
  { name := "UserDao"
    methods := ["save", "find"].map fun name => { name, returnType := "void" } },
  { name := "UserRepository" },
  { name := "UserData"
    methods := [{ name := "validate", returnType := "void" }]
    fields := [{ name := "age", type := "int" }] },
  { name := "UserService"
    methods := ["open", "close"].map fun name => { name, returnType := "void", isPublic := true }
    fields := [{ name := "users", type := "UserDao" }] },
  { name := "ServiceLocator" },
  { name := "Page", annotations := ["Autowired"] }]

theorem careless_noted : ∀ pattern ∈ notingPatterns,
    ((pattern.rule.evaluate carelessUnit true).any fun detection =>
      !detection.antipatterns.isEmpty) = true := by
  decide +kernel

theorem noting_iff (pattern : Pattern) :
    (∃ unit, pattern.rule.evaluate unit false ≠ pattern.rule.evaluate unit true) ↔
      pattern ∈ notingPatterns := by
  constructor
  · rintro ⟨unit, differ⟩
    by_contra other
    exact differ (asking_ignored other unit)
  · intro noting
    obtain ⟨detection, given, noted⟩ := List.any_eq_true.mp (careless_noted pattern noting)
    refine ⟨carelessUnit, fun same => ?_⟩
    have bare := unasked_without_notes pattern carelessUnit detection (same ▸ given)
    simp [bare] at noted

end Noting

section Configurations

def Rules.asking (rules : Rules) (asked : Slot → Bool) : Rules :=
  ⟨fun slot => { rules.rule slot with detectAntipatterns := asked slot }⟩

/-- A detection as it is reported if only some patterns' anti-patterns are asked for. -/
def Detection.asAsked (asked : Slot → Bool) (detection : Detection) : Detection :=
  if asked detection.pattern.slot then detection else detection.withoutAntipatterns

theorem evaluate_as_asked {rule : Rule} (member : rule ∈ Rule.all) (asked : Slot → Bool)
    (classes : List ClassModel) :
    rule.evaluate classes (asked rule.pattern.slot) =
      (rule.evaluate classes true).map (Detection.asAsked asked) := by
  have labelled : ∀ detection ∈ rule.evaluate classes true, detection.pattern = rule.pattern :=
    fun detection given => (evaluate_sound member classes true detection given).pattern
  cases choice : asked rule.pattern.slot with
  | true =>
      refine (List.map_id _).symm.trans (List.map_congr_left fun detection given => ?_)
      simp [Detection.asAsked, labelled detection given, choice]
  | false =>
      have notes := rule_notes rule.pattern classes
      rw [rule_of_mem member] at notes
      rw [notes]
      apply List.map_congr_left
      intro detection given
      simp [Detection.asAsked, labelled detection given, choice]

theorem detect_as_asked (rules : Rules) (asked : Slot → Bool) (classes : List ClassModel) :
    detect (rules.asking asked) classes =
      (detect (rules.asking fun _ => true) classes).map (Detection.asAsked asked) := by
  rw [detect, detect, List.map_flatMap]
  apply List.flatMap_congr
  intro rule member
  simp only [of_rule_slot member, Rules.asking]
  split
  next => exact evaluate_as_asked member asked classes
  next => rfl

/-- Asking for anti-patterns changes no detection: what a rule detects without them is what it detects
with them, the notes left out, and it has notes to leave out only if its pattern is one of the seven. So
the choice for each pattern shows in the notes of that pattern alone. -/
theorem antipatterns_beside_detections (classes : List ClassModel) :
    (∀ rule ∈ Rule.all,
      rule.evaluate classes false =
        (rule.evaluate classes true).map Detection.withoutAntipatterns ∧
      (∀ detection ∈ rule.evaluate classes false, detection.antipatterns = []) ∧
      ((∃ unit, rule.evaluate unit false ≠ rule.evaluate unit true) ↔
        rule.pattern ∈ notingPatterns)) ∧
    ∀ (rules : Rules) (asked : Slot → Bool),
      detect (rules.asking asked) classes =
        (detect (rules.asking fun _ => true) classes).map (Detection.asAsked asked) := by
  constructor
  · apply forall_rules
    intro pattern
    rw [rule_pattern]
    exact ⟨rule_notes pattern classes, unasked_without_notes pattern classes, noting_iff pattern⟩
  · intro rules asked
    exact detect_as_asked rules asked classes

end Configurations

end PatternInspector.Java
