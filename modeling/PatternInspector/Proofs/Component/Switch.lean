import Mathlib.Data.Fintype.Defs
import PatternInspector.Proofs.Component.Location
import PatternInspector.Proofs.Component.Origin
import PatternInspector.Proofs.Component.Scan
import PatternInspector.Proofs.TypeScript.Switch

/-!
The switches of the component checks. Detections and violations have sections of their own, each with
a switch, and most checks inside them have another one. Patterns of the options interface stand behind
no switch at all.
-/
namespace PatternInspector.Component

section Switches

inductive Switch where
  | composables
  | components
  | antiPatterns
  | bestPractices
  | template
  | composableNaming
  | smartDumb
  | mixins
  | loopConditions
  | propMutation
  | parentAccess
  | propValidation
  | eventNaming
  | scriptSetup
  | loopKeys
  deriving DecidableEq

instance : Fintype Switch where
  elems := ⟨([.composables, .components, .antiPatterns, .bestPractices, .template,
    .composableNaming, .smartDumb, .mixins, .loopConditions, .propMutation, .parentAccess,
    .propValidation, .eventNaming, .scriptSetup, .loopKeys] : List Switch), by decide⟩
  complete switch := by cases switch <;> decide

def Switch.isOn (rules : Rules) : Switch → Bool
  | .composables => rules.composables.enabled
  | .components => rules.components.enabled
  | .antiPatterns => rules.antiPatterns.enabled
  | .bestPractices => rules.bestPractices.enabled
  | .template => rules.template.enabled
  | .composableNaming => rules.composables.enforceNaming
  | .smartDumb => rules.components.enforceSmartDumb
  | .mixins => rules.antiPatterns.detectMixins
  | .loopConditions => rules.antiPatterns.detectVIfVFor
  | .propMutation => rules.antiPatterns.detectPropMutation
  | .parentAccess => rules.antiPatterns.detectParentAccess
  | .propValidation => rules.bestPractices.enforcePropValidation
  | .eventNaming => rules.bestPractices.enforceEventNaming
  | .scriptSetup => rules.bestPractices.enforceScriptSetup
  | .loopKeys => rules.template.enforceVForKey

def Rules.turn (rules : Rules) (switch : Switch) (on : Bool) : Rules :=
  match switch with
  | .composables => { rules with composables.enabled := on }
  | .components => { rules with components.enabled := on }
  | .antiPatterns => { rules with antiPatterns.enabled := on }
  | .bestPractices => { rules with bestPractices.enabled := on }
  | .template => { rules with template.enabled := on }
  | .composableNaming => { rules with composables.enforceNaming := on }
  | .smartDumb => { rules with components.enforceSmartDumb := on }
  | .mixins => { rules with antiPatterns.detectMixins := on }
  | .loopConditions => { rules with antiPatterns.detectVIfVFor := on }
  | .propMutation => { rules with antiPatterns.detectPropMutation := on }
  | .parentAccess => { rules with antiPatterns.detectParentAccess := on }
  | .propValidation => { rules with bestPractices.enforcePropValidation := on }
  | .eventNaming => { rules with bestPractices.enforceEventNaming := on }
  | .scriptSetup => { rules with bestPractices.enforceScriptSetup := on }
  | .loopKeys => { rules with template.enforceVForKey := on }

/-- The pattern or rule under which a finding is reported, its category, and whether it is a pattern
with anti-patterns of its own. -/
structure Kind where
  name : String
  category : Category
  flawed : Bool := false
  deriving DecidableEq

def Detection.kind (detection : Detection) : Kind :=
  ⟨detection.pattern, detection.category, !detection.antipatterns.isEmpty⟩

def Violation.kind (violation : Violation) : Kind :=
  { name := violation.rule, category := violation.category }

/-- The kinds of findings that are reported only while the switch is on. -/
def Switch.owns (switch : Switch) (kind : Kind) : Bool :=
  match switch with
  | .composables => kind.category == .composables
  | .components => kind.category == .components
  | .antiPatterns => kind.category == .antiPatterns || kind.category == .migration
  | .bestPractices => kind.category == .bestPractices
  | .template => kind.category == .template
  | .composableNaming => kind.name == "composable" && kind.flawed
  | .smartDumb => kind.name == "smart-dumb-components"
  | .mixins => kind.name == "mixin-usage"
  | .loopConditions => kind.name == "v-if-with-v-for"
  | .propMutation => kind.name == "prop-mutation"
  | .parentAccess => kind.name == "parent-access"
  | .propValidation => kind.name == "prop-validation"
  | .eventNaming => kind.name == "event-naming"
  | .scriptSetup => kind.name == "script-setup-usage"
  | .loopKeys => kind.name == "missing-v-for-key"

def templateKinds : List Kind :=
  templatePatterns.map fun name => { name, category := .components }

def optionKinds : List Kind :=
  optionPatterns.map fun name => { name, category := .optionsApi }

/-- The switches of the component rules, and the kinds of findings that the checks report. -/
def panel : Panel Rules Switch Kind where
  isOn := Switch.isOn
  turn := Rules.turn
  kinds := templateKinds ++ optionKinds ++ [
    { name := "composable", category := .composables },
    { name := "composable", category := .composables, flawed := true },
    { name := "composable-usage", category := .composables },
    { name := "smart-dumb-components", category := .components },
    { name := "provide-inject", category := .components },
    { name := "mixin-usage", category := .antiPatterns },
    { name := "filter-deprecated", category := .migration },
    { name := "v-if-with-v-for", category := .antiPatterns },
    { name := "prop-mutation", category := .antiPatterns },
    { name := "parent-access", category := .antiPatterns },
    { name := "god-component", category := .antiPatterns },
    { name := "prop-validation", category := .bestPractices },
    { name := "event-naming", category := .bestPractices },
    { name := "script-setup-usage", category := .bestPractices },
    { name := "missing-v-for-key", category := .template }]
  owns := Switch.owns
  turned rules switch on := by
    funext other
    cases switch <;> cases other <;> rfl

instance (gates : List Switch) (kinds : List Kind) : Decidable (Fits panel gates kinds) :=
  inferInstanceAs (Decidable (∀ k ∈ kinds, k ∈ panel.kinds ∧
    ∀ switch : Switch, switch.owns k = decide (switch ∈ gates)))

end Switches

section Detections

variable {outline : Outline}

abbrev Detected (gates : List Switch) (check : Rules → List Detection) : Prop :=
  Gated panel Detection.kind gates check

-- A definition with a proper name is reported either way; any other only where naming is enforced.
theorem definitions_behind (block : Block) (definition : Definition) :
    Detected [.composables] fun rules =>
      if isComposable rules.composables definition then
        [definitionDetection rules.composables block definition]
      else [] := by
  by_cases named : isComposableName definition.name = true
  · simp only [isComposable, named, Bool.true_or, if_true]
    apply gated_steady [{ name := "composable", category := .composables }]
    · intro rules switch on
      cases switch <;> rfl
    · intro rules detection member
      simp [List.mem_singleton.mp member, Detection.kind, definitionDetection, noteIf, named]
    · decide
  · simp only [isComposable, named, Bool.false_or, Bool.and_assoc]
    apply gated_if_and Switch.composableNaming
    apply gated_single { name := "composable", category := .composables, flawed := true }
    · intro rules switch on
      cases switch <;> exact ⟨Iff.rfl, rfl⟩
    · intro rules
      simp [Detection.kind, definitionDetection, noteIf, named]
    · decide

theorem usage_behind (block : Block) :
    Detected [.composables] fun _ => (usageDetection? outline block).toList := by
  apply gated_steady [{ name := "composable-usage", category := .composables }]
  · intro rules switch on
    rfl
  · intro rules detection member
    unfold usageDetection? at member
    split at member
    · exact absurd member List.not_mem_nil
    · simp [List.mem_singleton.mp member, Detection.kind]
  · decide

theorem composables_behind (block : Option Block) (found : List Definition) :
    Detected [.composables] fun rules =>
      detectComposables rules.composables outline block found := by
  cases block with
  | none => exact gated_nil
  | some block =>
      apply gated_append
      · exact gated_map_filter found (definitions_behind block)
      · exact usage_behind block

theorem smart_dumb_behind (block : Option Block) :
    Detected [.components] fun rules => detectSmartDumb rules.components outline block := by
  unfold detectSmartDumb
  simp only [Bool.and_comm outline.isScriptSetup, Bool.and_assoc]
  apply gated_if_and Switch.smartDumb
  apply gated_single { name := "smart-dumb-components", category := .components }
  · intro rules switch on
    exact ⟨Iff.rfl, rfl⟩
  · intro rules
    rfl
  · decide

theorem filed_plain {detection : Detection} {category : Category} {names : List String}
    (known : detection.pattern ∈ names)
    (plain : detection.category = category ∧ detection.antipatterns = []) :
    detection.kind ∈ names.map fun name => { name, category } := by
  obtain ⟨rfl, none⟩ := plain
  have shape : detection.kind = { name := detection.pattern, category := detection.category } := by
    simp [Detection.kind, none]
  rw [shape]
  exact List.mem_map_of_mem known

theorem template_plain (block : Block) : ∀ detection ∈ detectTemplate outline block,
    detection.category = .components ∧ detection.antipatterns = [] := by
  unfold detectTemplate detectNamedSlots detectScopedSlots detectRenderless detectBuiltIn
  simp only [List.forall_mem_append, and_assoc]
  split_ands
  · split
    · simp
    · exact List.forall_mem_singleton.mpr ⟨rfl, rfl⟩
  · split
    · simp
    · exact List.forall_mem_singleton.mpr ⟨rfl, rfl⟩
  · exact forall_mem_if (List.forall_mem_singleton.mpr ⟨rfl, rfl⟩)
  · split
    · simp
    · exact List.forall_mem_singleton.mpr ⟨rfl, rfl⟩
  · split
    · simp
    · exact List.forall_mem_singleton.mpr ⟨rfl, rfl⟩

theorem template_behind (block : Block) :
    Detected [.components] fun _ => detectTemplate outline block := by
  apply gated_steady templateKinds
  · intro rules switch on
    rfl
  · intro rules detection member
    exact filed_plain (template_named block detection member) (template_plain block detection member)
  · decide

theorem components_behind (descriptor : Descriptor) :
    Detected [.components] fun rules => detectComponents rules.components outline descriptor := by
  unfold detectComponents
  apply gated_append
  · apply gated_append
    · exact smart_dumb_behind descriptor.primaryScript
    · exact gated_flat_map _ template_behind
  · apply gated_steady [{ name := "provide-inject", category := .components }]
    · intro rules switch on
      rfl
    · intro rules
      unfold detectProvideInject
      dsimp only
      split
      · simp
      · exact List.forall_mem_singleton.mpr List.mem_cons_self
    · decide

theorem options_plain (block : Option Block) : ∀ detection ∈ detectOptions outline block,
    detection.category = .optionsApi ∧ detection.antipatterns = [] := by
  unfold detectOptions
  apply forall_mem_if
  simp only [List.forall_mem_append, and_assoc]
  split_ands
  · exact forall_mem_if (List.forall_mem_singleton.mpr ⟨rfl, rfl⟩)
  · exact forall_mem_unless (List.forall_mem_singleton.mpr ⟨rfl, rfl⟩)
  · exact forall_mem_unless (List.forall_mem_singleton.mpr ⟨rfl, rfl⟩)
  · exact forall_mem_unless (List.forall_mem_singleton.mpr ⟨rfl, rfl⟩)

theorem options_behind (block : Option Block) :
    Detected [] fun _ => detectOptions outline block := by
  apply gated_steady optionKinds
  · intro rules switch on
    rfl
  · intro rules detection member
    exact filed_plain (options_named block detection member) (options_plain block detection member)
  · decide

theorem detections_behind (descriptor : Descriptor) (analysis : Analysis) :
    Detected [] fun rules => detections rules descriptor analysis := by
  unfold detections
  apply gated_append
  · apply gated_append
    · exact gated_if Switch.composables (composables_behind _ _)
    · exact gated_if Switch.components (components_behind _)
  · exact options_behind descriptor.script

end Detections

section Violations

variable {outline : Outline}

abbrev Reported (gates : List Switch) (check : Rules → List Violation) : Prop :=
  Gated panel Violation.kind gates check

theorem mixins_behind (script : Option Block) :
    Reported [.antiPatterns] fun rules => checkMixins rules.antiPatterns outline script := by
  unfold checkMixins
  simp only [Bool.and_assoc]
  apply gated_if_and Switch.mixins
  apply gated_single { name := "mixin-usage", category := .antiPatterns }
  · intro rules switch on
    cases switch <;> exact ⟨Iff.rfl, rfl⟩
  · intro rules
    rfl
  · decide

theorem filters_behind (script : Option Block) :
    Reported [.antiPatterns] fun rules => checkFilters rules.antiPatterns outline script := by
  unfold checkFilters
  apply gated_single { name := "filter-deprecated", category := .migration }
  · intro rules switch on
    cases switch <;> exact ⟨Iff.rfl, rfl⟩
  · intro rules
    rfl
  · decide

theorem loop_conditions_behind (template : Option Block) :
    Reported [.antiPatterns] fun rules => checkLoopConditions rules.antiPatterns template := by
  unfold checkLoopConditions
  apply gated_if Switch.loopConditions
  apply gated_steady [{ name := "v-if-with-v-for", category := .antiPatterns }]
  · intro rules switch on
    cases switch <;> rfl
  · intro rules violation member
    obtain ⟨block, -, inside⟩ := List.mem_flatMap.mp member
    obtain ⟨found, -, rfl⟩ := List.mem_map.mp inside
    exact List.mem_singleton.mpr rfl
  · decide

theorem prop_mutation_behind (block : Option Block) :
    Reported [.antiPatterns] fun rules => checkPropMutation rules.antiPatterns outline block := by
  unfold checkPropMutation
  apply gated_if Switch.propMutation
  apply gated_steady [{ name := "prop-mutation", category := .antiPatterns }]
  · intro rules switch on
    rfl
  · intro rules violation member
    obtain ⟨prop, -, mutated⟩ := List.mem_filterMap.mp member
    obtain ⟨found, -, rfl⟩ := Option.map_eq_some_iff.mp mutated
    exact List.mem_singleton.mpr rfl
  · decide

theorem parent_access_behind (block : Option Block) :
    Reported [.antiPatterns] fun rules => checkParentAccess rules.antiPatterns outline block := by
  unfold checkParentAccess
  apply gated_if Switch.parentAccess
  apply gated_steady [{ name := "parent-access", category := .antiPatterns }]
  · intro rules switch on
    cases switch <;> rfl
  · intro rules violation member
    obtain ⟨found, -, rfl⟩ := List.mem_map.mp member
    exact List.mem_singleton.mpr rfl
  · decide

theorem size_behind (block : Option Block) :
    Reported [.antiPatterns] fun rules => checkSize rules outline block := by
  unfold checkSize
  apply gated_single { name := "god-component", category := .antiPatterns }
  · intro rules switch on
    cases switch <;> exact ⟨Iff.rfl, rfl⟩
  · intro rules
    rfl
  · decide

theorem anti_patterns_behind (descriptor : Descriptor) :
    Reported [.antiPatterns] fun rules => checkAntiPatterns rules outline descriptor := by
  unfold checkAntiPatterns
  apply gated_append
  · apply gated_append
    · apply gated_append
      · apply gated_append
        · apply gated_append
          · exact mixins_behind descriptor.script
          · exact filters_behind descriptor.script
        · exact loop_conditions_behind descriptor.template
      · exact prop_mutation_behind descriptor.primaryScript
    · exact parent_access_behind descriptor.primaryScript
  · exact size_behind descriptor.primaryScript

theorem best_practices_behind (descriptor : Descriptor) :
    Reported [.bestPractices] fun rules =>
      checkBestPractices rules.bestPractices outline descriptor := by
  unfold checkBestPractices
  apply gated_append
  · apply gated_append
    · unfold checkPropValidation
      simp only [Bool.and_assoc]
      apply gated_if_and Switch.propValidation
      apply gated_single { name := "prop-validation", category := .bestPractices }
      · intro rules switch on
        cases switch <;> exact ⟨Iff.rfl, rfl⟩
      · intro rules
        rfl
      · decide
    · unfold checkEventNaming
      apply gated_if Switch.eventNaming
      apply gated_steady [{ name := "event-naming", category := .bestPractices }]
      · intro rules switch on
        cases switch <;> rfl
      · intro rules violation member
        obtain ⟨event, -, rfl⟩ := List.mem_map.mp member
        exact List.mem_singleton.mpr rfl
      · decide
  · unfold checkScriptSetup
    simp only [Bool.and_assoc]
    apply gated_if_and Switch.scriptSetup
    apply gated_single { name := "script-setup-usage", category := .bestPractices }
    · intro rules switch on
      cases switch <;> exact ⟨Iff.rfl, rfl⟩
    · intro rules
      rfl
    · decide

theorem loop_keys_behind (template : Option Block) :
    Reported [.template] fun rules => checkLoopKeys rules.template template := by
  unfold checkLoopKeys
  apply gated_if Switch.loopKeys
  apply gated_steady [{ name := "missing-v-for-key", category := .template }]
  · intro rules switch on
    cases switch <;> rfl
  · intro rules violation member
    obtain ⟨block, -, inside⟩ := List.mem_flatMap.mp member
    obtain ⟨found, -, rfl⟩ := List.mem_map.mp inside
    exact List.mem_singleton.mpr rfl
  · decide

theorem violations_behind (descriptor : Descriptor) (analysis : Analysis) :
    Reported [] fun rules => violations rules descriptor analysis := by
  unfold violations
  apply gated_append
  · apply gated_append
    · exact gated_if Switch.antiPatterns (anti_patterns_behind _)
    · exact gated_if Switch.bestPractices (best_practices_behind _)
  · exact gated_if Switch.template (loop_keys_behind _)

end Violations

section Reports

def Report.without (report : Report) (switch : Switch) : Report :=
  { report with
    detections := report.detections.filter fun detection => !switch.owns detection.kind
    violations := report.violations.filter fun violation => !switch.owns violation.kind }

theorem validate_turned_off (rules : Rules) (switch : Switch) (code : Text) (filename : String) :
    ∃ report, validate (rules.turn switch true) code filename = .ok report ∧
      validate (rules.turn switch false) code filename = .ok (report.without switch) := by
  unfold validate validateBy
  cases split code filename with
  | error fault => exact ⟨_, rfl, by cases switch <;> rfl⟩
  | ok descriptor =>
      obtain ⟨analysis, analyzed⟩ := analyze_succeeds descriptor
      dsimp only
      rw [analyzed]
      have detected := (detections_behind descriptor analysis).follows rules switch
      have reported := (violations_behind descriptor analysis).follows rules switch
      refine ⟨_, rfl, ?_⟩
      exact congrArg₂ (fun found broken => Except.ok (Report.mk filename _ found broken))
        detected reported

/-- Turning a switch off removes from a report, of style checks or of component checks, the findings
that the switch owns, and changes nothing else. -/
theorem switches_remove_own :
    (∀ (rules : TypeScript.Rules) (switch : TypeScript.Switch) (filename : String) (code : Text)
      (outcome : Except Syntax.Fault Syntax.Node),
      TypeScript.reportOnTree (rules.turn switch false) filename code outcome =
        (TypeScript.reportOnTree (rules.turn switch true) filename code outcome).without switch) ∧
    (∀ (rules : TypeScript.Rules) (switch : TypeScript.Switch) (code : Text) (filename : String),
      TypeScript.validate (rules.turn switch false) code filename =
        (TypeScript.validate (rules.turn switch true) code filename).without switch) ∧
    ∀ (rules : Rules) (switch : Switch) (code : Text) (filename : String),
      ∃ report, validate (rules.turn switch true) code filename = .ok report ∧
        validate (rules.turn switch false) code filename = .ok (report.without switch) := by
  refine ⟨TypeScript.report_turned_off, ?_, validate_turned_off⟩
  intro rules switch code filename
  exact TypeScript.report_turned_off rules switch filename code _

end Reports

end PatternInspector.Component
