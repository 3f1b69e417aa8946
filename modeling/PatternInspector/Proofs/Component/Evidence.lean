import PatternInspector.Proofs.Component.Location
import PatternInspector.Proofs.Java.Evidence

/-!
What stands behind the detections in a component, check by check. The main statement joins them with
the detections in classes: every detection of either report has evidence, and at least two pieces of
it where the confidence is high.
-/
namespace PatternInspector.Component

variable {outline : Outline}

def Detection.IsBacked (detection : Detection) : Prop :=
  Backed detection.confidence detection.evidence

section Scripts

theorem definition_backed (rules : ComposableRules) (block : Block) (definition : Definition) :
    (definitionDetection rules block definition).IsBacked :=
  backed_two (by simp [definitionDetection])

theorem usage_backed {block : Block} {detection : Detection}
    (found : usageDetection? outline block = some detection) : detection.IsBacked := by
  unfold usageDetection? at found
  split at found
  next => cases found
  next first others calls =>
    cases found
    -- One piece for each call, and high confidence from the second call on.
    refine backed_high_if ?_ fun more => ?_
    · simp [calls]
    · cases others with
      | nil => cases more
      | cons second others => simp [calls]

theorem composables_backed {rules : ComposableRules} {block : Option Block}
    {found : List Definition} :
    ∀ detection ∈ detectComposables rules outline block found, detection.IsBacked := by
  cases block with
  | none => simp [detectComposables]
  | some block =>
      refine List.forall_mem_append.mpr ⟨?_, ?_⟩
      · rw [List.forall_mem_map]
        exact fun definition _ => definition_backed rules block definition
      · intro detection member
        exact usage_backed (Option.mem_toList.mp member)

theorem smart_dumb_backed {rules : ComponentRules} {block : Option Block} :
    ∀ detection ∈ detectSmartDumb rules outline block, detection.IsBacked :=
  forall_mem_if (List.forall_mem_singleton.mpr (backed_two (by simp)))

theorem provide_inject_backed {block : Option Block} :
    ∀ detection ∈ detectProvideInject outline block, detection.IsBacked := by
  unfold detectProvideInject
  dsimp only
  generalize (Text.Reader.search (injectionCall "provide") outline.primaryScript).map (·.start) =
    provides
  generalize (Text.Reader.search (injectionCall "inject") outline.primaryScript).map (·.start) =
    injects
  -- The first of the two places exists only if one of the calls does.
  cases provides <;> cases injects <;>
    simp [Detection.IsBacked, Backed, noteIf, Confidence.highIf, Confidence.demand]

end Scripts

section Templates

variable {block : Block}

theorem built_in_backed {pattern label : String} {names : List String} :
    ∀ detection ∈ detectBuiltIn pattern label names outline block, detection.IsBacked := by
  unfold detectBuiltIn
  split
  next => simp
  next => exact List.forall_mem_singleton.mpr (backed_two (Nat.le_refl 2))

theorem template_backed : ∀ detection ∈ detectTemplate outline block, detection.IsBacked := by
  refine List.forall_mem_append.mpr ⟨List.forall_mem_append.mpr ⟨List.forall_mem_append.mpr
    ⟨List.forall_mem_append.mpr ⟨?_, ?_⟩, ?_⟩, ?_⟩, ?_⟩
  · unfold detectNamedSlots
    split
    next => simp
    next => exact List.forall_mem_singleton.mpr (backed_two (Nat.le_refl 2))
  · unfold detectScopedSlots
    split
    next => simp
    next => exact List.forall_mem_singleton.mpr (backed_two (Nat.le_refl 2))
  · exact forall_mem_if (List.forall_mem_singleton.mpr (backed_two (Nat.le_refl 2)))
  · exact built_in_backed
  · exact built_in_backed

theorem components_backed {rules : ComponentRules} {descriptor : Descriptor} :
    ∀ detection ∈ detectComponents rules outline descriptor, detection.IsBacked := by
  refine List.forall_mem_append.mpr ⟨List.forall_mem_append.mpr ⟨?_, ?_⟩, ?_⟩
  · exact smart_dumb_backed
  · intro detection member
    obtain ⟨block, -, own⟩ := List.mem_flatMap.mp member
    exact template_backed detection own
  · exact provide_inject_backed

end Templates

section Options

variable {block : Option Block}

theorem options_structure_backed :
    ∀ detection ∈ detectOptionsStructure outline block, detection.IsBacked := by
  refine forall_mem_if (List.forall_mem_singleton.mpr ?_)
  refine backed_high_if ?_ fun certain => of_decide_eq_true certain
  simp [← Nat.add_assoc]

theorem options_backed : ∀ detection ∈ detectOptions outline block, detection.IsBacked := by
  refine forall_mem_if ?_
  refine List.forall_mem_append.mpr ⟨List.forall_mem_append.mpr
    ⟨List.forall_mem_append.mpr ⟨?_, ?_⟩, ?_⟩, ?_⟩
  · exact options_structure_backed
  · exact forall_mem_unless (List.forall_mem_singleton.mpr (backed_two (Nat.le_refl 2)))
  · exact forall_mem_unless (List.forall_mem_singleton.mpr (backed_two (Nat.le_refl 2)))
  · exact forall_mem_unless (List.forall_mem_singleton.mpr (backed_two (Nat.le_refl 2)))

end Options

section Reports

theorem detections_backed {rules : Rules} {descriptor : Descriptor} {analysis : Analysis} :
    ∀ detection ∈ detections rules descriptor analysis, detection.IsBacked := by
  refine List.forall_mem_append.mpr ⟨List.forall_mem_append.mpr ⟨?_, ?_⟩, ?_⟩
  · exact forall_mem_if composables_backed
  · exact forall_mem_if components_backed
  · exact options_backed

theorem validate_backed (rules : Rules) (code : Text) (filename : String) :
    ∃ report, validate rules code filename = .ok report ∧
      ∀ detection ∈ report.detections, detection.IsBacked := by
  unfold validate validateBy
  cases split code filename with
  | error fault => exact ⟨_, rfl, by simp [faultReport]⟩
  | ok descriptor =>
      obtain ⟨analysis, analyzed⟩ := analyze_succeeds descriptor
      dsimp only
      rw [analyzed]
      exact ⟨_, rfl, detections_backed⟩

/-- No detection, in classes or in a component, stands without evidence, and none that is called
certain stands on a single piece. -/
theorem confidence_has_evidence :
    (∀ (rules : Java.Rules) (classes : List Java.ClassModel),
      ∀ detection ∈ Java.detect rules classes,
        detection.evidence ≠ [] ∧
        (detection.confidence = .high → 2 ≤ detection.evidence.length)) ∧
    ∀ (rules : Rules) (code : Text) (filename : String),
      ∃ report, validate rules code filename = .ok report ∧
        ∀ detection ∈ report.detections,
          detection.evidence ≠ [] ∧
          (detection.confidence = .high → 2 ≤ detection.evidence.length) := by
  constructor
  · intro rules classes detection member
    exact backed_iff.mp (Java.detect_backed rules classes detection member)
  · intro rules code filename
    obtain ⟨report, given, backed⟩ := validate_backed rules code filename
    exact ⟨report, given, fun detection member => backed_iff.mp (backed detection member)⟩

end Reports

end PatternInspector.Component
