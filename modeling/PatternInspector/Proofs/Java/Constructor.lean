import Mathlib.Data.List.Forall2
import PatternInspector.Proofs.Java.Registry

/-!
Constructors are no methods. A constructor bears the name of its class, so a rule that took it for a
method would find `create`, `get` or `handle` in it. All rules but two read a class as if its
constructors were not there. The two others ask one question each: is some constructor private, and
does some constructor have parameters.
-/
namespace PatternInspector.Java

-- The conditions are compared as they stand; no name is ever searched here.
attribute [local irreducible] mentions

section Removal

namespace ClassModel

def withoutConstructors (cls : ClassModel) : ClassModel := { cls with methods := cls.ownMethods }

variable (cls : ClassModel)

theorem own_methods_kept : cls.withoutConstructors.ownMethods = cls.ownMethods := by
  simp only [withoutConstructors, ownMethods, List.filter_filter, Bool.and_self]

theorem method_names_kept : cls.withoutConstructors.methodNames = cls.methodNames := by
  rw [methodNames, own_methods_kept, methodNames]

theorem has_method_kept (name : String) :
    cls.withoutConstructors.hasMethod name = cls.hasMethod name := by
  rw [hasMethod, method_names_kept, hasMethod]

theorem has_method_like_kept (fragments : List String) :
    cls.withoutConstructors.hasMethodLike fragments = cls.hasMethodLike fragments := by
  rw [hasMethodLike, own_methods_kept, hasMethodLike]

theorem public_methods_kept :
    cls.withoutConstructors.publicInstanceMethods = cls.publicInstanceMethods := by
  rw [publicInstanceMethods, own_methods_kept, publicInstanceMethods]

theorem crud_score_kept : crudScore cls.withoutConstructors = crudScore cls := by
  simp only [crudScore, has_method_like_kept]

end ClassModel

end Removal

section Rules

open ClassModel

variable {rule : Rule} {pattern : Pattern}

def Rule.IgnoresConstructors (rule : Rule) : Prop :=
  ∀ classes flag, rule.evaluate (classes.map withoutConstructors) flag = rule.evaluate classes flag

-- What a rule asks about the other classes is about their names and annotations.
theorem ignores_by_class {judge : List ClassModel → Bool → ClassModel → Option Detection}
    (byClass : rule.JudgesBy judge)
    (context : ∀ classes flag cls, judge (classes.map withoutConstructors) flag cls =
      judge classes flag cls)
    (own : ∀ classes flag cls, judge classes flag cls.withoutConstructors = judge classes flag cls) :
    rule.IgnoresConstructors := by
  intro classes flag
  rw [byClass, byClass, List.filterMap_map]
  apply List.filterMap_congr
  intro cls _
  exact (context classes flag _).trans (own classes flag cls)

theorem builder_ignores : Pattern.builder.rule.IgnoresConstructors := by
  apply ignores_by_class fun _ _ => rfl
  · intro classes flag cls
    simp only [detectBuilder, List.any_map]
    rfl
  · intro classes flag cls
    simp only [detectBuilder, own_methods_kept]
    rfl

theorem memento_ignores : Pattern.memento.rule.IgnoresConstructors := by
  apply ignores_by_class fun _ _ => rfl
  · intro classes flag cls
    simp only [detectMemento, List.any_map]
    rfl
  · exact fun _ _ _ => rfl

theorem composite_entity_ignores : Pattern.compositeEntity.rule.IgnoresConstructors := by
  apply ignores_by_class fun _ _ => rfl
  · intro classes flag cls
    simp only [entityNames, List.filter_map, List.map_map]
    rfl
  · exact fun _ _ _ => rfl

theorem mvc_ignores : Pattern.mvc.rule.IgnoresConstructors := by
  intro classes flag
  change detectMvc (classes.map withoutConstructors) flag = detectMvc classes flag
  simp only [detectMvc, List.filter_map, List.isEmpty_map, List.length_map]
  rfl

def constructorPatterns : List Pattern := [.singleton, .dependencyInjection]

theorem rule_ignores (other : pattern ∉ constructorPatterns) : pattern.rule.IgnoresConstructors := by
  cases pattern
  case singleton | dependencyInjection => exact absurd (by decide) other
  case builder => exact builder_ignores
  case memento => exact memento_ignores
  case compositeEntity => exact composite_entity_ignores
  case mvc => exact mvc_ignores
  -- The other rules look at one class alone.
  all_goals refine ignores_by_class (fun _ _ => rfl) (fun _ _ _ => rfl) fun classes flag cls => ?_
  -- Rules that ask for no methods at all.
  case adapter | decorator | proxy | bridge | frontController | businessDelegate |
      serviceLocator => rfl
  -- Rules that go through the methods themselves.
  case factoryMethod | abstractFactory | prototype | flyweight | templateMethod | repository | dto |
      dataMapper | transferObjectAssembler | circuitBreaker | saga | cqrs =>
    simp only [detectFactoryMethod, detectAbstractFactory, detectPrototype, detectFlyweight,
      detectTemplateMethod, detectRepository, detectDto, detectDataMapper, detectCircuitBreaker,
      detectSaga, detectCqrs, own_methods_kept]
    rfl
  -- Rules that ask whether there are methods of some name.
  case composite | command | state | iterator | chainOfResponsibility | mediator | interpreter |
      valueObject | eventSourcing | unitOfWork =>
    simp only [detectComposite, detectCommand, detectState, detectIterator,
      detectChainOfResponsibility, detectMediator, detectInterpreter, detectValueObject,
      detectEventSourcing, detectUnitOfWork, method_names_kept, has_method_kept,
      has_method_like_kept]
    rfl
  case observer | strategy | visitor =>
    simp only [detectObserver, detectStrategy, detectVisitor, own_methods_kept, has_method_kept,
      has_method_like_kept]
    rfl
  case facade | serviceLayer | sessionFacade =>
    simp only [detectFacade, detectServiceLayer, public_methods_kept]
    rfl
  case dao | activeRecord =>
    simp only [detectDao, detectActiveRecord, crud_score_kept, own_methods_kept]
    rfl

end Rules

section Questions

open ClassModel

variable {first second : ClassModel} {asked : Method → Bool}

/-- Classes that differ in nothing but their constructors, and these give the same answer to a
question. -/
structure AlikeBut (asked : Method → Bool) (first second : ClassModel) : Prop where
  apart : first.withoutConstructors = second.withoutConstructors
  answer : first.constructors.any asked = second.constructors.any asked

theorem alike_judged {judge judgeToo : ClassModel → Option Detection}
    {classes others : List ClassModel}
    (same : ∀ first second, AlikeBut asked first second → judge first = judgeToo second)
    (alike : List.Forall₂ (AlikeBut asked) classes others) :
    classes.filterMap judge = others.filterMap judgeToo := by
  induction alike with
  | nil => rfl
  | cons first _ ih => rw [List.filterMap_cons, List.filterMap_cons, same _ _ first, ih]

def Method.takesParameters (method : Method) : Bool := !method.parameters.isEmpty

theorem methods_differ (apart : first.withoutConstructors = second.withoutConstructors) :
    ∃ methods, second = { first with methods } := by
  simp only [withoutConstructors, ClassModel.mk.injEq] at apart
  obtain ⟨name, interface, abstract, -, fields, bases, base, marks, modifiers, outer, line⟩ := apart
  refine ⟨second.methods, ?_⟩
  rw [name, interface, abstract, fields, bases, base, marks, modifiers, outer, line]

theorem singleton_alike (unit unitToo : List ClassModel) (flag : Bool)
    (alike : AlikeBut Method.isPrivate first second) :
    detectSingleton first unit flag = detectSingleton second unitToo flag := by
  obtain ⟨apart, answer⟩ := alike
  have own : first.ownMethods = second.ownMethods := congrArg ClassModel.methods apart
  obtain ⟨methods, rfl⟩ := methods_differ apart
  simp only [detectSingleton, hasMethod, methodNames, answer, own]
  rfl

theorem injection_alike (unit unitToo : List ClassModel) (flag : Bool)
    (alike : AlikeBut Method.takesParameters first second) :
    detectDependencyInjection first unit flag = detectDependencyInjection second unitToo flag := by
  obtain ⟨apart, answer⟩ := alike
  obtain ⟨methods, rfl⟩ := methods_differ apart
  unfold Method.takesParameters at answer
  unfold detectDependencyInjection
  rw [answer]
  rfl

def constructedUnit : List ClassModel := [
  { name := "Registry"
    methods := [{ name := "Registry", isPrivate := true }]
    fields := [{ name := "instance", type := "Registry", isStatic := true, isFinal := true }] },
  { name := "Store"
    methods := [{ name := "Store", parameters := [{ name := "path", type := "Path" }] }]
    fields := [{ name := "path", type := "Path", isFinal := true }] }]

theorem constructed_detected : ∀ pattern ∈ constructorPatterns, ∀ flag,
    (pattern.rule.evaluate constructedUnit flag).length = 1 ∧
      (pattern.rule.evaluate (constructedUnit.map withoutConstructors) flag).length = 0 := by
  decide +kernel

/-- Constructors are no methods. Taking them away changes no detection of any rule but two, and these
two see nothing of them but whether one is private, and whether one has parameters; that they do
see. -/
theorem constructors_no_methods (flag : Bool) :
    (∀ rule ∈ Rule.all, rule.pattern ≠ .singleton → rule.pattern ≠ .dependencyInjection →
      ∀ classes, rule.evaluate (classes.map withoutConstructors) flag = rule.evaluate classes flag) ∧
    (∀ rule ∈ Rule.all, rule.pattern = .singleton → ∀ classes others,
      List.Forall₂ (AlikeBut Method.isPrivate) classes others →
        rule.evaluate classes flag = rule.evaluate others flag) ∧
    (∀ rule ∈ Rule.all, rule.pattern = .dependencyInjection → ∀ classes others,
      List.Forall₂ (AlikeBut Method.takesParameters) classes others →
        rule.evaluate classes flag = rule.evaluate others flag) ∧
    ∀ rule ∈ Rule.all, rule.pattern ∈ constructorPatterns → ∃ classes,
      rule.evaluate (classes.map withoutConstructors) flag ≠ rule.evaluate classes flag := by
  split_ands
  · apply forall_rules
    intro pattern notSingleton notInjection classes
    rw [rule_pattern] at notSingleton notInjection
    exact rule_ignores (by simp [constructorPatterns, notSingleton, notInjection]) classes flag
  · intro rule member own classes others alike
    obtain rfl : Pattern.singleton.rule = rule := own ▸ rule_of_mem member
    exact alike_judged (fun _ _ => singleton_alike classes others flag) alike
  · intro rule member own classes others alike
    obtain rfl : Pattern.dependencyInjection.rule = rule := own ▸ rule_of_mem member
    exact alike_judged (fun _ _ => injection_alike classes others flag) alike
  · apply forall_rules
    intro pattern known
    rw [rule_pattern] at known
    obtain ⟨one, none⟩ := constructed_detected pattern known flag
    refine ⟨constructedUnit, fun same => ?_⟩
    rw [same, one] at none
    exact absurd none (by decide)

end Questions

end PatternInspector.Java
