import Mathlib.Data.Fintype.Defs
import PatternInspector.Proofs.Finding.Switch
import PatternInspector.TypeScript.Parse

/-!
The switches of the style checks. Each section has one, and inside the sections some checks have one
of their own. Two of these stand in another section than the check they belong to.
-/
namespace PatternInspector.TypeScript

open PatternInspector.Syntax (Node Fault)
open PatternInspector.Syntax.Node (Visit)

section Switches

inductive Switch where
  | naming
  | solid
  | codeSmells
  | deadCode
  | duplication
  | longMethods
  | godClasses
  deriving DecidableEq

instance : Fintype Switch where
  elems := ⟨([.naming, .solid, .codeSmells, .deadCode, .duplication, .longMethods, .godClasses] :
    List Switch), by decide⟩
  complete switch := by cases switch <;> decide

def Switch.isOn (rules : Rules) : Switch → Bool
  | .naming => rules.naming.enabled
  | .solid => rules.solid.enabled
  | .codeSmells => rules.codeSmells.enabled
  | .deadCode => rules.codeSmells.detectDeadCode
  | .duplication => rules.codeSmells.detectDuplication
  | .longMethods => rules.codeSmells.detectLongMethods
  | .godClasses => rules.codeSmells.detectGodClasses

def Rules.turn (rules : Rules) (switch : Switch) (on : Bool) : Rules :=
  match switch with
  | .naming => { rules with naming.enabled := on }
  | .solid => { rules with solid.enabled := on }
  | .codeSmells => { rules with codeSmells.enabled := on }
  | .deadCode => { rules with codeSmells.detectDeadCode := on }
  | .duplication => { rules with codeSmells.detectDuplication := on }
  | .longMethods => { rules with codeSmells.detectLongMethods := on }
  | .godClasses => { rules with codeSmells.detectGodClasses := on }

def Violation.kind (violation : Violation) : String × Category :=
  (violation.rule, violation.category)

/-- The kinds of violations that are reported only while the switch is on. -/
def Switch.owns : Switch → String × Category → Bool
  | .naming, (_, category) => category == .naming
  | .solid, (_, category) => category == .solid
  | .codeSmells, (_, category) => category == .codeSmells
  | .deadCode, (rule, _) => rule == "code-smell-unused-variable"
  | .duplication, (rule, _) => rule == "code-smell-duplication"
  | .longMethods, (rule, _) => ["solid-function-too-long", "solid-method-too-long"].contains rule
  | .godClasses, (rule, _) => rule == "solid-god-class"

def namingKinds : List (String × Category) := [
  ("naming-class-pascalcase", .naming),
  ("naming-function-camelcase", .naming),
  ("naming-method-camelcase", .naming),
  ("naming-const-convention", .naming)]

def longKinds : List (String × Category) := [
  ("solid-function-too-long", .solid),
  ("solid-method-too-long", .solid)]

/-- The switches of the style rules, and the kinds of violations that the checks report. -/
def panel : Panel Rules Switch (String × Category) where
  isOn := Switch.isOn
  turn := Rules.turn
  kinds := namingKinds ++ longKinds ++ [
    ("solid-too-many-parameters", .solid),
    ("solid-god-class", .solid),
    ("code-smell-unused-variable", .codeSmells),
    ("code-smell-duplication", .codeSmells),
    ("code-smell-lack-of-comments", .codeSmells)]
  owns := Switch.owns
  turned rules switch on := by
    funext other
    cases switch <;> cases other <;> rfl

instance (gates : List Switch) (kinds : List (String × Category)) :
    Decidable (Fits panel gates kinds) :=
  inferInstanceAs (Decidable (∀ k ∈ kinds, k ∈ panel.kinds ∧
    ∀ switch : Switch, switch.owns k = decide (switch ∈ gates)))

end Switches

section Names

theorem misnamed_kind {rule subject : String} {severity : Severity} {style : NamingStyle}
    {node : Node} {name : Option Text} :
    ∀ violation ∈ (name.bind (misnamed? rule subject severity style node)).toList,
      violation.kind = (rule, .naming) := by
  intro violation member
  obtain ⟨name, -, found⟩ := Option.bind_eq_some_iff.mp (Option.mem_toList.mp member)
  unfold misnamed? at found
  split at found
  · cases found
  · cases found
    rfl

theorem misnamed_constant_kind {patterns : NamingPatterns} {declarator : Node}
    {violation : Violation} (found : misnamedConstant? patterns declarator = some violation) :
    violation.kind = ("naming-const-convention", .naming) := by
  unfold misnamedConstant? at found
  split at found
  · cases found
  · split at found
    · cases found
    · cases found
      rfl

theorem names_filed (rules : NamingRules) (root : Node) :
    ∀ violation ∈ checkNames rules root, violation.kind ∈ namingKinds := by
  intro violation member
  obtain ⟨visit, -, own⟩ := List.mem_flatMap.mp member
  unfold namingViolationsAt at own
  dsimp only at own
  split at own
  · simp [misnamed_kind violation own, namingKinds]
  · split at own
    · simp [misnamed_kind violation own, namingKinds]
    · split at own
      · simp [misnamed_kind violation own, namingKinds]
      · split at own
        · obtain ⟨declarator, -, found⟩ := List.mem_filterMap.mp own
          simp [misnamed_constant_kind found, namingKinds]
        · exact absurd own List.not_mem_nil

end Names

section Checks

abbrev Behind (gates : List Switch) (check : Rules → List Violation) : Prop :=
  Gated panel Violation.kind gates check

theorem names_behind (root : Node) :
    Behind [.naming] fun rules => checkNames rules.naming root := by
  apply gated_steady namingKinds
  · intro rules switch on
    cases switch <;> rfl
  · intro rules
    exact names_filed rules.naming root
  · decide

theorem callables_behind (visit : Visit) :
    Behind [.solid] fun rules => callableViolations rules visit := by
  unfold callableViolations
  apply gated_append
  · apply gated_single ("solid-too-many-parameters", Category.solid)
    · intro rules switch on
      cases switch <;> exact ⟨Iff.rfl, rfl⟩
    · intro rules
      rfl
    · decide
  · apply gated_if_and Switch.longMethods
    apply gated_steady longKinds
    · intro rules switch on
      cases switch <;> rfl
    · intro rules violation member
      obtain ⟨-, own⟩ := List.mem_ite_nil_right.mp member
      by_cases method : isMethod visit.node = true
      · simp [List.mem_singleton.mp own, Violation.kind, tooLarge, longKinds, method]
      · simp [List.mem_singleton.mp own, Violation.kind, tooLarge, longKinds, method]
    · decide

theorem classes_behind (node : Node) :
    Behind [.solid] fun rules => classViolations rules node := by
  unfold classViolations
  apply gated_if_and Switch.godClasses
  apply gated_single ("solid-god-class", Category.solid)
  · intro rules switch on
    cases switch <;> exact ⟨Iff.rfl, rfl⟩
  · intro rules
    rfl
  · decide

theorem sizes_behind (root : Node) : Behind [.solid] fun rules => checkSizes rules root := by
  apply gated_flat_map
  intro visit
  unfold sizeViolationsAt
  by_cases callable : (isFunction visit.node || isMethod visit.node) = true
  · simp only [if_pos callable]
    exact callables_behind visit
  · by_cases cls : isClass visit.node = true
    · simp only [if_neg callable, if_pos cls]
      exact classes_behind visit.node
    · simp only [if_neg callable, if_neg cls]
      exact gated_nil

theorem unused_kind {declared : List Declaration} {severity : Severity} {violation : Violation}
    (member : violation ∈ declared.map (unusedViolation severity)) :
    violation.kind = ("code-smell-unused-variable", .codeSmells) := by
  obtain ⟨declaration, -, rfl⟩ := List.mem_map.mp member
  rfl

theorem duplication_kind {code : Text} {violation : Violation}
    (member : violation ∈ checkDuplication code) :
    violation.kind = ("code-smell-duplication", .codeSmells) := by
  obtain ⟨occurrence, -, found⟩ := List.mem_filterMap.mp member
  unfold duplicationViolation? at found
  obtain ⟨-, given⟩ := Option.ite_none_left_eq_some.mp found
  obtain rfl := Option.some.inj given
  rfl

theorem comments_kind {code : Text} {violation : Violation}
    (member : violation ∈ checkComments code) :
    violation.kind = ("code-smell-lack-of-comments", .codeSmells) := by
  unfold checkComments at member
  obtain ⟨-, own⟩ := List.mem_ite_nil_left.mp member
  obtain rfl := List.mem_singleton.mp own
  rfl

theorem smells_behind (root : Node) (code : Text) :
    Behind [.codeSmells] fun rules => checkSmells rules.codeSmells root code := by
  unfold checkSmells
  apply gated_append
  · apply gated_append
    · apply gated_if Switch.deadCode
      apply gated_steady [("code-smell-unused-variable", Category.codeSmells)]
      · intro rules switch on
        cases switch <;> rfl
      · intro rules violation member
        exact List.mem_singleton.mpr (unused_kind member)
      · decide
    · apply gated_if Switch.duplication
      apply gated_steady [("code-smell-duplication", Category.codeSmells)]
      · intro rules switch on
        rfl
      · intro rules violation member
        exact List.mem_singleton.mpr (duplication_kind member)
      · decide
  · apply gated_steady [("code-smell-lack-of-comments", Category.codeSmells)]
    · intro rules switch on
      rfl
    · intro rules violation member
      exact List.mem_singleton.mpr (comments_kind member)
    · decide

theorem violations_behind (root : Node) (code : Text) :
    Behind [] fun rules => violations rules root code := by
  unfold violations
  apply gated_append
  · apply gated_append
    · exact gated_if Switch.naming (names_behind root)
    · exact gated_if Switch.solid (sizes_behind root)
  · exact gated_if Switch.codeSmells (smells_behind root code)

end Checks

section Reports

def Report.without (report : Report) (switch : Switch) : Report :=
  { report with
    violations := report.violations.filter fun violation => !switch.owns violation.kind }

theorem report_turned_off (rules : Rules) (switch : Switch) (filename : String) (code : Text)
    (outcome : Except Fault Node) :
    reportOnTree (rules.turn switch false) filename code outcome =
      (reportOnTree (rules.turn switch true) filename code outcome).without switch := by
  cases outcome with
  | error fault => cases switch <;> rfl
  | ok root =>
      exact congrArg (Report.mk filename) ((violations_behind root code).follows rules switch)

end Reports

end PatternInspector.TypeScript
