import Mathlib.Data.List.Flatten
import PatternInspector.Proofs.Syntax.Visit
import PatternInspector.Proofs.TypeScript.Switch

/-!
Size limits. A function can have too many parameters or too many lines, and a class too many methods;
each such excess of each node is reported once, in the order of the nodes. Since a higher limit is
exceeded by fewer nodes, raising limits only takes reports away.
-/
namespace PatternInspector.TypeScript

open PatternInspector.Syntax (Node Place Enumerates enumerates_append enumerates_flat_map
  enumerates_if enumerates_imp enumerates_mem enumerates_nil enumerates_slot)
open PatternInspector.Syntax.Node (Visit)

section Measures

def callableKinds : List String := [
  "function_declaration", "generator_function_declaration", "function_expression", "function",
  "generator_function", "arrow_function", "method_definition"]

def classKinds : List String := ["class_declaration", "abstract_class_declaration"]

/-- How many parameters a function takes: those of its list, comments apart, or else the one that
stands alone. -/
inductive Takes (node : Node) : Nat → Prop where
  | listed {list : Node} (given : node.field? "parameters" = some list) :
      Takes node (list.children.countP fun child => child.label.isNamed && child.kind != "comment")
  | alone (unlisted : node.field? "parameters" = none)
      (given : (node.field? "parameter").isSome = true) : Takes node 1
  | nothing (unlisted : node.field? "parameters" = none)
      (missing : (node.field? "parameter").isSome = false) : Takes node 0

/-- A member of a class body that is a method, but no accessor and no constructor. -/
def OrdinaryMethod (member : Node) : Prop :=
  member.label.isNamed = true ∧ member.kind = "method_definition" ∧
    (∀ child ∈ member.children, child.kind ≠ "get" ∧ child.kind ≠ "set") ∧
    ∀ name ∈ member.field? "name", name.text ≠ "constructor"

instance : DecidablePred OrdinaryMethod := fun _ => inferInstanceAs (Decidable (_ ∧ _ ∧ _ ∧ _))

def HasMethods (node : Node) (count : Nat) : Prop :=
  ∃ body, node.field? "body" = some body ∧ body.children.countP (OrdinaryMethod ·) = count

theorem length_named_filter (node : Node) (chosen : Node → Bool) :
    (node.namedChildren.filter chosen).length =
      node.children.countP fun child => child.label.isNamed && chosen child := by
  rw [Node.namedChildren, List.filter_filter, ← List.countP_eq_length_filter]
  simp only [Bool.and_comm]

theorem takes_iff {node : Node} {count : Nat} :
    Takes node count ↔ parameterCount node = count := by
  unfold parameterCount
  constructor
  · intro takes
    cases takes with
    | listed given => simp only [given, length_named_filter]
    | alone unlisted given => simp [unlisted, given]
    | nothing unlisted missing => simp [unlisted, missing]
  · rintro rfl
    cases given : node.field? "parameters" with
    | some list =>
        simp only [length_named_filter]
        exact Takes.listed given
    | none =>
        cases single : (node.field? "parameter").isSome with
        | true => exact Takes.alone given single
        | false => exact Takes.nothing given single

theorem ordinary_method_iff (member : Node) :
    OrdinaryMethod member ↔ (member.label.isNamed && countsAsMethod member) = true := by
  have accessor : isAccessor member = false ↔
      ∀ child ∈ member.children, child.kind ≠ "get" ∧ child.kind ≠ "set" := by
    simp [isAccessor, Node.childOf?]
  have plain : (((member.field? "name").map Node.text) != some "constructor") = true ↔
      ∀ name ∈ member.field? "name", name.text ≠ "constructor" := by
    cases member.field? "name" <;> simp
  simp [OrdinaryMethod, countsAsMethod, isMethod, accessor, plain, and_assoc]

theorem class_method_count_iff {node : Node} {limit : Nat} :
    limit < classMethodCount node ↔ ∃ count, HasMethods node count ∧ limit < count := by
  unfold classMethodCount HasMethods
  cases node.field? "body" with
  | none => simp
  | some body =>
      have counted : (body.namedChildren.filter countsAsMethod).length =
          body.children.countP (OrdinaryMethod ·) := by
        rw [length_named_filter]
        apply List.countP_congr
        intro member _
        simp [ordinary_method_iff]
      simp [counted]

end Measures

section Excesses

/-- What a node can have too much of. -/
inductive Excess where
  | parameters
  | lines
  | methods
  deriving DecidableEq

def Excess.rank : Excess → Nat
  | .parameters => 0
  | .lines => 1
  | .methods => 2

def Excess.Before (first second : Excess) : Prop := first.rank < second.rank

def Excess.rules : Excess → List String
  | .parameters => ["solid-too-many-parameters"]
  | .lines => ["solid-method-too-long", "solid-function-too-long"]
  | .methods => ["solid-god-class"]

def Excess.rule (node : Node) : Excess → String
  | .parameters => "solid-too-many-parameters"
  | .lines =>
      if node.kind = "method_definition" then "solid-method-too-long" else "solid-function-too-long"
  | .methods => "solid-god-class"

def Exceeds (rules : Rules) (node : Node) : Excess → Prop
  | .parameters => node.kind ∈ callableKinds ∧
      ∃ count, Takes node count ∧ rules.solid.maxParameters < count
  | .lines => node.kind ∈ callableKinds ∧ rules.codeSmells.detectLongMethods = true ∧
      node.label.start.row + rules.solid.maxFunctionLines < node.label.stop.row
  | .methods => node.kind ∈ classKinds ∧ rules.codeSmells.detectGodClasses = true ∧
      ∃ count, HasMethods node count ∧ rules.solid.maxClassMethods < count

structure ReportsExcess (rules : Rules) (node : Node) (excess : Excess) (violation : Violation) :
    Prop where
  rule : violation.rule = excess.rule node
  category : violation.category = .solid
  severity : violation.severity = rules.solid.severity
  line : violation.line = some node.line
  column : violation.column = some node.column

variable {rules : Rules} {visit : Visit}

theorem callable_iff (node : Node) :
    (isFunction node || isMethod node) = true ↔ node.kind ∈ callableKinds := by
  simp [isFunction, isFunctionDeclaration, isMethod, callableKinds, or_assoc]

theorem class_iff (node : Node) : isClass node = true ↔ node.kind ∈ classKinds := by
  simp [isClass, classKinds]

theorem class_not_callable {node : Node} (declares : node.kind ∈ classKinds) :
    node.kind ∉ callableKinds := by
  simp only [classKinds, List.mem_cons, List.not_mem_nil, or_false] at declares
  rcases declares with same | same
  · rw [same]
    decide
  · rw [same]
    decide

theorem long_iff {node : Node} {limit : Nat} :
    limit < node.rowSpan ↔ node.label.start.row + limit < node.label.stop.row := by
  unfold Node.rowSpan
  omega

theorem too_large_reports {node : Node} {excess : Excess} {rule message suggestion : String}
    {evidence : List String} (named : rule = excess.rule node) :
    ReportsExcess rules node excess
      (tooLarge rule rules.solid.severity node message suggestion evidence) :=
  ⟨named, rfl, rfl, rfl, rfl⟩

theorem callable_enumerates (callable : visit.node.kind ∈ callableKinds) :
    Enumerates Excess.Before (Exceeds rules visit.node) (ReportsExcess rules visit.node)
      (callableViolations rules visit) := by
  have noClass : visit.node.kind ∉ classKinds := fun declares => class_not_callable declares callable
  have parts : Enumerates Excess.Before
      (fun excess =>
        (excess = .parameters ∧ rules.solid.maxParameters < parameterCount visit.node) ∨
        (excess = .lines ∧ (rules.codeSmells.detectLongMethods &&
          decide (rules.solid.maxFunctionLines < visit.node.rowSpan)) = true))
      (ReportsExcess rules visit.node) (callableViolations rules visit) := by
    apply enumerates_append
    · apply enumerates_if
      exact too_large_reports rfl
    · apply enumerates_if
      apply too_large_reports
      simp [Excess.rule, isMethod]
    · rintro _ _ ⟨rfl, -⟩ ⟨rfl, -⟩
      exact Nat.zero_lt_one
  apply enumerates_imp parts
  · intro excess
    cases excess with
    | parameters => simp [Exceeds, callable, takes_iff]
    | lines => simp [Exceeds, callable, long_iff]
    | methods => simp [Exceeds, noClass]
  · exact fun _ _ reported => reported

theorem class_enumerates (declares : visit.node.kind ∈ classKinds) :
    Enumerates Excess.Before (Exceeds rules visit.node) (ReportsExcess rules visit.node)
      (classViolations rules visit.node) := by
  have noCallable := class_not_callable declares
  have part : Enumerates Excess.Before
      (fun excess => excess = .methods ∧ (rules.codeSmells.detectGodClasses &&
        decide (rules.solid.maxClassMethods < classMethodCount visit.node)) = true)
      (ReportsExcess rules visit.node) (classViolations rules visit.node) := by
    apply enumerates_if
    exact too_large_reports rfl
  apply enumerates_imp part
  · intro excess
    cases excess with
    | parameters => simp [Exceeds, noCallable]
    | lines => simp [Exceeds, noCallable]
    | methods => simp [Exceeds, declares, class_method_count_iff]
  · exact fun _ _ reported => reported

theorem excesses_enumerate (rules : Rules) (visit : Visit) :
    Enumerates Excess.Before (Exceeds rules visit.node) (ReportsExcess rules visit.node)
      (sizeViolationsAt rules visit) := by
  unfold sizeViolationsAt
  by_cases callable : visit.node.kind ∈ callableKinds
  · rw [if_pos ((callable_iff _).mpr callable)]
    exact callable_enumerates callable
  · rw [if_neg (mt (callable_iff _).mp callable)]
    by_cases declares : visit.node.kind ∈ classKinds
    · rw [if_pos ((class_iff _).mpr declares)]
      exact class_enumerates declares
    · rw [if_neg (mt (class_iff _).mp declares)]
      apply enumerates_nil
      intro excess
      cases excess <;> simp [Exceeds, callable, declares]

def ExceedsAt (rules : Rules) (root : Node) (site : Place × Excess) : Prop :=
  ∃ node, root.at? site.1 = some node ∧ Exceeds rules node site.2

def ReportsAt (rules : Rules) (root : Node) (site : Place × Excess) (violation : Violation) : Prop :=
  ∃ node, root.at? site.1 = some node ∧ ReportsExcess rules node site.2 violation

theorem sizes_enumerate (rules : Rules) (root : Node) :
    Enumerates (Prod.Lex (· < ·) Excess.Before) (ExceedsAt rules root) (ReportsAt rules root)
      (checkSizes rules root) := by
  have visits := enumerates_flat_map root.visits_tabulate fun visit _ =>
    excesses_enumerate rules visit
  have seen : ∀ place node, root.at? place = some node ↔
      ∃ visit, root.visitAt? place = some visit ∧ visit.node = node := by
    intro place node
    rw [← Node.visit_node, Option.map_eq_some_iff]
  apply enumerates_imp visits
  · intro site
    constructor
    · rintro ⟨visit, found, exceeds⟩
      exact ⟨visit.node, (seen _ _).mpr ⟨visit, found, rfl⟩, exceeds⟩
    · rintro ⟨node, found, exceeds⟩
      obtain ⟨visit, here, rfl⟩ := (seen _ _).mp found
      exact ⟨visit, here, exceeds⟩
  · rintro site violation ⟨visit, found, reported⟩
    exact ⟨visit.node, (seen _ _).mpr ⟨visit, found, rfl⟩, reported⟩

end Excesses

section Raising

def Violation.spot (violation : Violation) : String × Option Nat × Option Nat :=
  (violation.rule, violation.line, violation.column)

def Rules.raise (rules : Rules) (parameters lines methods : Nat) : Rules :=
  { rules with solid := { rules.solid with
      maxParameters := rules.solid.maxParameters + parameters
      maxFunctionLines := rules.solid.maxFunctionLines + lines
      maxClassMethods := rules.solid.maxClassMethods + methods } }

variable (rules : Rules) (parameters lines methods : Nat)

theorem spots_if {before after : Prop} [Decidable before] [Decidable after] {rule : String}
    {severity : Severity} {node : Node} {old new oldAdvice newAdvice : String}
    {oldEvidence newEvidence : List String} (stays : after → before) :
    ((if after then [tooLarge rule severity node new newAdvice newEvidence] else []).map
        Violation.spot).Sublist
      ((if before then [tooLarge rule severity node old oldAdvice oldEvidence] else []).map
        Violation.spot) := by
  by_cases exceeded : after
  · rw [if_pos exceeded, if_pos (stays exceeded)]
    exact List.Sublist.refl [(rule, some node.line, some node.column)]
  · rw [if_neg exceeded]
    exact List.nil_sublist _

theorem exceeded_before {flag : Bool} {limit more size : Nat}
    (exceeded : (flag && decide (limit + more < size)) = true) :
    (flag && decide (limit < size)) = true := by
  simp only [Bool.and_eq_true, decide_eq_true_eq] at exceeded ⊢
  exact ⟨exceeded.1, by omega⟩

theorem excesses_raised (visit : Visit) :
    ((sizeViolationsAt (rules.raise parameters lines methods) visit).map Violation.spot).Sublist
      ((sizeViolationsAt rules visit).map Violation.spot) := by
  unfold sizeViolationsAt
  by_cases callable : (isFunction visit.node || isMethod visit.node) = true
  · rw [if_pos callable, if_pos callable, callableViolations, callableViolations, List.map_append,
      List.map_append]
    apply List.Sublist.append
    · apply spots_if
      intro exceeded
      exact Nat.lt_of_le_of_lt (Nat.le_add_right _ parameters) exceeded
    · apply spots_if
      exact exceeded_before
  · rw [if_neg callable, if_neg callable]
    by_cases declares : isClass visit.node = true
    · rw [if_pos declares, if_pos declares, classViolations, classViolations]
      apply spots_if
      exact exceeded_before
    · rw [if_neg declares, if_neg declares]

theorem sizes_raised (root : Node) :
    ((checkSizes (rules.raise parameters lines methods) root).map Violation.spot).Sublist
      ((checkSizes rules root).map Violation.spot) := by
  rw [checkSizes, checkSizes, List.map_flatMap, List.map_flatMap]
  apply List.Sublist.flatMap_right
  intro visit _
  exact excesses_raised rules parameters lines methods visit

theorem violations_raised (root : Node) (code : Text) :
    ((violations (rules.raise parameters lines methods) root code).map Violation.spot).Sublist
      ((violations rules root code).map Violation.spot) := by
  unfold violations
  rw [List.map_append, List.map_append, List.map_append, List.map_append]
  apply List.Sublist.append
  · apply List.Sublist.append
    · exact List.Sublist.refl _
    · have same : (rules.raise parameters lines methods).solid.enabled = rules.solid.enabled := rfl
      rw [same]
      by_cases enabled : rules.solid.enabled = true
      · rw [if_pos enabled, if_pos enabled]
        exact sizes_raised rules parameters lines methods root
      · rw [if_neg enabled]
        exact List.nil_sublist _
  · exact List.Sublist.refl _

end Raising

section Reports

def smellKinds : List (String × Category) := [
  ("code-smell-unused-variable", .codeSmells),
  ("code-smell-duplication", .codeSmells),
  ("code-smell-lack-of-comments", .codeSmells)]

theorem smells_filed (rules : CodeSmellRules) (root : Node) (code : Text) :
    ∀ violation ∈ checkSmells rules root code, violation.kind ∈ smellKinds := by
  intro violation member
  rw [checkSmells, List.mem_append, List.mem_append, List.mem_ite_nil_right,
    List.mem_ite_nil_right] at member
  rcases member with (⟨-, unused⟩ | ⟨-, repeated⟩) | sparse
  · simp [unused_kind unused, smellKinds]
  · simp [duplication_kind repeated, smellKinds]
  · simp [comments_kind sparse, smellKinds]

theorem filter_if_nil {condition : Bool} {found : List Violation} {keeps : Violation → Bool}
    (others : ∀ violation ∈ found, ¬ keeps violation = true) :
    (if condition then found else []).filter keeps = [] := by
  rw [List.filter_eq_nil_iff]
  intro violation member
  exact others violation (List.mem_ite_nil_right.mp member).2

-- Names and smells are reported under other rules.
theorem report_sizes {rules : Rules} (enabled : rules.solid.enabled = true) {keeps : Violation → Bool}
    (others : ∀ violation : Violation, violation.kind ∈ namingKinds ++ smellKinds →
      ¬ keeps violation = true) (root : Node) (code : Text) :
    (violations rules root code).filter keeps = (checkSizes rules root).filter keeps := by
  have names : (if rules.naming.enabled then checkNames rules.naming root else []).filter keeps =
      [] := by
    apply filter_if_nil
    intro violation member
    exact others violation (List.mem_append_left _ (names_filed _ _ violation member))
  have smells : (if rules.codeSmells.enabled then checkSmells rules.codeSmells root code
      else []).filter keeps = [] := by
    apply filter_if_nil
    intro violation member
    exact others violation (List.mem_append_right _ (smells_filed _ _ _ violation member))
  rw [violations, List.filter_append, List.filter_append, names, smells, if_pos enabled,
    List.nil_append, List.append_nil]

theorem recognised_by_rule {rules : Rules} {node : Node} {excess other : Excess}
    {violation : Violation} (reported : ReportsExcess rules node other violation) :
    excess.rules.contains violation.rule = true ↔ other = excess := by
  rw [reported.rule]
  by_cases method : node.kind = "method_definition"
  · cases excess <;> cases other <;> simp [Excess.rules, Excess.rule, method]
  · cases excess <;> cases other <;> simp [Excess.rules, Excess.rule, method]

/-- What is reported on the sizes in a tree: the excesses of its nodes, each once and in the order of
the nodes, and under the rules for one kind of excess nothing else. -/
structure SizesReported (rules : Rules) (root : Node) (found : List Violation) : Prop where
  inOrder : Enumerates (Prod.Lex (· < ·) Excess.Before) (ExceedsAt rules root)
    (ReportsAt rules root) (found.filter (·.category == .solid))
  byRule : ∀ excess : Excess, Enumerates (· < ·) (fun place => ExceedsAt rules root (place, excess))
    (fun place => ReportsAt rules root (place, excess))
    (found.filter (excess.rules.contains ·.rule))

theorem report_solid {rules : Rules} (enabled : rules.solid.enabled = true) (root : Node)
    (code : Text) :
    (violations rules root code).filter (·.category == .solid) = checkSizes rules root := by
  rw [report_sizes enabled]
  · rw [List.filter_eq_self]
    intro violation member
    obtain ⟨site, -, node, -, reported⟩ := enumerates_mem (sizes_enumerate rules root) member
    simp [reported.category]
  · intro violation filed
    have other : ∀ kind ∈ namingKinds ++ smellKinds, ¬ (kind.2 == Category.solid) = true := by decide
    exact other violation.kind filed

theorem sizes_reported {rules : Rules} (enabled : rules.solid.enabled = true) (root : Node)
    (code : Text) : SizesReported rules root (violations rules root code) := by
  constructor
  · rw [report_solid enabled]
    exact sizes_enumerate rules root
  · intro excess
    rw [report_sizes enabled]
    · apply enumerates_slot (sizes_enumerate rules root) excess (Nat.lt_irrefl _)
      rintro site violation ⟨node, -, reported⟩
      exact recognised_by_rule reported
    · intro violation filed
      have other : ∀ kind ∈ namingKinds ++ smellKinds, ¬ excess.rules.contains kind.1 = true := by
        cases excess <;> decide
      exact other violation.kind filed

/-- With size checks on, the report has one violation for each function or method with more parameters
or more lines than allowed and for each class with more methods than allowed, in the order of a walk
through the tree. Higher limits take violations away and add none. -/
theorem size_limits_exact (rules : Rules) (enabled : rules.solid.enabled = true) (root : Node)
    (code : Text) (filename : String) :
    let report := reportOnTree rules filename code (.ok root)
    SizesReported rules root report.violations ∧
    ∀ parameters lines methods,
      let raised := reportOnTree (rules.raise parameters lines methods) filename code (.ok root)
      (raised.violations.map Violation.spot).Sublist (report.violations.map Violation.spot) ∧
      ((raised.violations.filter (·.category == .solid)).map Violation.spot).Sublist
        ((report.violations.filter (·.category == .solid)).map Violation.spot) := by
  constructor
  · exact sizes_reported enabled root code
  · intro parameters lines methods
    constructor
    · exact violations_raised rules parameters lines methods root code
    · have both := sizes_raised rules parameters lines methods root
      rwa [← report_solid enabled root code,
        ← report_solid (show (rules.raise parameters lines methods).solid.enabled = true from enabled)
          root code] at both

def crampedRules : Rules where
  solid := { maxParameters := 1, maxFunctionLines := 1, maxClassMethods := 1 }

def crampedClass : Node :=
  (parse .plain "class A \x7b f(a, /* c */ b) \x7b\n\n\x7d\n get g() \x7b\x7d h() \x7b\x7d \x7d".toList
    ).toOption.getD default

theorem cramped_class_reported :
    crampedRules.solid.enabled = true ∧
    ((reportOnTree crampedRules "a.ts" [] (.ok crampedClass)).violations.map Violation.spot = [
      ("solid-god-class", some 1, some 1), ("solid-too-many-parameters", some 1, some 11),
      ("solid-method-too-long", some 1, some 11)]) ∧
    SizesReported crampedRules crampedClass
      (reportOnTree crampedRules "a.ts" [] (.ok crampedClass)).violations :=
  ⟨rfl, by decide +kernel, (size_limits_exact crampedRules rfl crampedClass [] "a.ts").1⟩

end Reports

end PatternInspector.TypeScript
