import PatternInspector.Component.Report
import PatternInspector.Proofs.Finding.Evidence

/-!
Which check a finding comes from. Every check reports under names of its own, so the findings of one
name in a report are the findings of one check.
-/
namespace PatternInspector.Component

section Names

variable {α : Type} {label : α → String} {names : List String} {items others : List α}

def Among (label : α → String) (names : List String) (items : List α) : Prop :=
  ∀ item ∈ items, label item ∈ names

theorem among_nil : Among label names [] := fun _ member => absurd member List.not_mem_nil

theorem among_single {item : α} (named : label item ∈ names) : Among label names [item] :=
  List.forall_mem_singleton.mpr named

theorem among_append (first : Among label names items) (second : Among label names others) :
    Among label names (items ++ others) :=
  List.forall_mem_append.mpr ⟨first, second⟩

theorem among_map {β : Type} {make : β → α} (named : ∀ source, label (make source) ∈ names)
    (sources : List β) : Among label names (sources.map make) :=
  List.forall_mem_map.mpr fun source _ => named source

theorem among_flat_map {β : Type} {make : β → List α} (named : ∀ source, Among label names (make source))
    (sources : List β) : Among label names (sources.flatMap make) := by
  intro item member
  obtain ⟨source, -, own⟩ := List.mem_flatMap.mp member
  exact named source item own

theorem filter_own {name : String} (own : Among label [name] items) :
    items.filter (fun item => label item == name) = items :=
  List.filter_eq_self.mpr fun item member => beq_iff_eq.mpr (List.mem_singleton.mp (own item member))

theorem filter_other {wanted : String} (own : Among label names items) (other : wanted ∉ names) :
    items.filter (fun item => label item == wanted) = [] := by
  refine List.filter_eq_nil_iff.mpr fun item member same => ?_
  exact other (beq_iff_eq.mp same ▸ own item member)

theorem filter_if {condition : Prop} [Decidable condition] (accepts : α → Bool) (items : List α) :
    (if condition then items else []).filter accepts =
      if condition then items.filter accepts else [] := by
  split
  · rfl
  · rfl

/-- Items in parts, each part under a name of its own. -/
structure Partition (label : α → String) (parts : List (String × List α)) : Prop where
  named : ∀ part ∈ parts, Among label [part.1] part.2
  distinct : (parts.map (·.1)).Nodup

theorem partition_nil : Partition label [] := ⟨by simp, List.nodup_nil⟩

theorem partition_cons {name : String} {parts : List (String × List α)}
    (own : Among label [name] items) (fresh : name ∉ parts.map (·.1))
    (others : Partition label parts) : Partition label ((name, items) :: parts) :=
  ⟨List.forall_mem_cons.mpr ⟨own, others.named⟩, List.nodup_cons.mpr ⟨fresh, others.distinct⟩⟩

theorem among_parts {parts : List (String × List α)}
    (named : ∀ part ∈ parts, Among label [part.1] part.2) :
    Among label (parts.map (·.1)) (parts.flatMap (·.2)) := by
  intro item given
  obtain ⟨part, known, inside⟩ := List.mem_flatMap.mp given
  rw [List.mem_singleton.mp (named part known item inside)]
  exact List.mem_map_of_mem known

-- A name that starts one part occurs in no other, so every other part is filtered out.
theorem filter_part {parts : List (String × List α)} (partition : Partition label parts)
    {part : String × List α} (member : part ∈ parts) :
    (parts.flatMap (·.2)).filter (fun item => label item == part.1) = part.2 := by
  induction parts with
  | nil => exact absurd member List.not_mem_nil
  | cons first parts ih =>
      have tail : Partition label parts :=
        ⟨fun part later => partition.named part (List.mem_cons_of_mem first later),
          (List.nodup_cons.mp partition.distinct).2⟩
      have fresh : first.1 ∉ parts.map (·.1) := (List.nodup_cons.mp partition.distinct).1
      rw [List.flatMap_cons, List.filter_append]
      rcases List.mem_cons.mp member with rfl | later
      · rw [filter_own (partition.named part List.mem_cons_self),
          filter_other (among_parts tail.named) fresh, List.append_nil]
      · have different : part.1 ∉ [first.1] := by
          intro same
          refine fresh ?_
          rw [← List.mem_singleton.mp same]
          exact List.mem_map_of_mem later
        rw [filter_other (partition.named first List.mem_cons_self) different, List.nil_append,
          ih tail later]

end Names

section Detections

variable {outline : Outline}

theorem composables_named (rules : ComposableRules) (block : Option Block)
    (found : List Definition) : Among Detection.pattern ["composable", "composable-usage"]
      (detectComposables rules outline block found) := by
  cases block with
  | none => exact among_nil
  | some block =>
      refine among_append ?_ ?_
      · refine among_map (fun definition => ?_) _
        exact List.mem_cons_self
      · unfold usageDetection?
        split
        · exact among_nil
        · exact among_single (List.mem_cons_of_mem _ List.mem_cons_self)

def templatePatterns : List String :=
  ["named-slots", "scoped-slots", "renderless-component", "teleport", "suspense"]

theorem built_in_named {pattern label : String} {names : List String} {block : Block}
    (known : pattern ∈ templatePatterns) : Among Detection.pattern templatePatterns
      (detectBuiltIn pattern label names outline block) := by
  unfold detectBuiltIn
  split
  · exact among_nil
  · exact among_single known

theorem template_named (block : Block) :
    Among Detection.pattern templatePatterns (detectTemplate outline block) := by
  refine among_append (among_append (among_append (among_append ?_ ?_) ?_) ?_) ?_
  · unfold detectNamedSlots
    split
    · exact among_nil
    · exact among_single (by simp [templateDetection, templatePatterns])
  · unfold detectScopedSlots
    split
    · exact among_nil
    · exact among_single (by simp [templateDetection, templatePatterns])
  · exact forall_mem_if (among_single (by simp [templateDetection, templatePatterns]))
  · exact built_in_named (by simp [templatePatterns])
  · exact built_in_named (by simp [templatePatterns])

theorem smart_dumb_named (rules : ComponentRules) (block : Option Block) :
    Among Detection.pattern ["smart-dumb-components"] (detectSmartDumb rules outline block) :=
  forall_mem_if (among_single List.mem_cons_self)

theorem provide_inject_named (block : Option Block) :
    Among Detection.pattern ["provide-inject"] (detectProvideInject outline block) := by
  unfold detectProvideInject
  dsimp only
  split
  · exact among_nil
  · exact among_single List.mem_cons_self

def optionParts (outline : Outline) (block : Option Block) : List (String × List Detection) := [
  ("options-api-structure", detectOptionsStructure outline block),
  ("vue2-mixins", detectMixins outline block),
  ("vue2-filters", detectFilters outline block),
  ("watchers", detectWatchers outline block)]

theorem option_partition (block : Option Block) :
    Partition Detection.pattern (optionParts outline block) := by
  refine partition_cons ?_ (by simp) (partition_cons ?_ (by simp) (partition_cons ?_ (by simp)
    (partition_cons ?_ (by simp) partition_nil)))
  · exact forall_mem_if (among_single List.mem_cons_self)
  · exact forall_mem_unless (among_single List.mem_cons_self)
  · exact forall_mem_unless (among_single List.mem_cons_self)
  · exact forall_mem_unless (among_single List.mem_cons_self)

theorem options_parts (block : Option Block) :
    detectOptions outline block = if outline.usesOptionsApi && outline.version == .two then
      (optionParts outline block).flatMap (·.2) else [] := by
  simp [detectOptions, optionParts]

def optionPatterns : List String :=
  ["options-api-structure", "vue2-mixins", "vue2-filters", "watchers"]

theorem options_named (block : Option Block) :
    Among Detection.pattern optionPatterns (detectOptions outline block) := by
  rw [options_parts]
  exact forall_mem_if (among_parts (option_partition block).named)

variable (rules : Rules) (descriptor : Descriptor) (analysis : Analysis)

theorem provide_inject_detections :
    (detections rules descriptor analysis).filter (·.pattern == "provide-inject") =
      if rules.components.enabled then
        detectProvideInject analysis.outline descriptor.primaryScript
      else [] := by
  have elsewhere : "provide-inject" ∉ ["composable", "composable-usage"] ∧
      "provide-inject" ∉ ["smart-dumb-components"] ∧ "provide-inject" ∉ templatePatterns ∧
      "provide-inject" ∉ optionPatterns := by decide
  obtain ⟨composables, smartDumb, template, options⟩ := elsewhere
  simp only [detections, detectComponents, List.filter_append, filter_if,
    filter_other (composables_named _ _ _) composables, filter_other (smart_dumb_named _ _) smartDumb,
    filter_other (among_flat_map template_named _) template, filter_own (provide_inject_named _),
    filter_other (options_named _) options, ite_self, List.nil_append, List.append_nil]

theorem option_detections {part : String × List Detection}
    (member : part ∈ optionParts analysis.outline descriptor.script) :
    (detections rules descriptor analysis).filter (·.pattern == part.1) =
      if analysis.outline.usesOptionsApi && analysis.outline.version == .two then part.2 else [] := by
  have elsewhere : ∀ name ∈ optionPatterns, name ∉ ["composable", "composable-usage"] ∧
      name ∉ ["smart-dumb-components"] ∧ name ∉ templatePatterns ∧ name ∉ ["provide-inject"] := by
    decide
  obtain ⟨composables, smartDumb, template, injection⟩ :=
    elsewhere part.1 (List.mem_map_of_mem member)
  simp only [detections, detectComponents, options_parts, List.filter_append, filter_if,
    filter_other (composables_named _ _ _) composables, filter_other (smart_dumb_named _ _) smartDumb,
    filter_other (among_flat_map template_named _) template,
    filter_other (provide_inject_named _) injection, filter_part (option_partition _) member,
    ite_self, List.nil_append]

end Detections

section Violations

variable {outline : Outline} {descriptor : Descriptor}

def antiPatternParts (rules : Rules) (outline : Outline) (descriptor : Descriptor) :
    List (String × List Violation) := [
  ("mixin-usage", checkMixins rules.antiPatterns outline descriptor.script),
  ("filter-deprecated", checkFilters rules.antiPatterns outline descriptor.script),
  ("v-if-with-v-for", checkLoopConditions rules.antiPatterns descriptor.template),
  ("prop-mutation", checkPropMutation rules.antiPatterns outline descriptor.primaryScript),
  ("parent-access", checkParentAccess rules.antiPatterns outline descriptor.primaryScript),
  ("god-component", checkSize rules outline descriptor.primaryScript)]

theorem anti_pattern_partition (rules : Rules) :
    Partition Violation.rule (antiPatternParts rules outline descriptor) := by
  refine partition_cons ?_ (by simp) (partition_cons ?_ (by simp) (partition_cons ?_ (by simp)
    (partition_cons ?_ (by simp) (partition_cons ?_ (by simp) (partition_cons ?_ (by simp)
      partition_nil)))))
  · exact forall_mem_if (among_single List.mem_cons_self)
  · exact forall_mem_if (among_single List.mem_cons_self)
  · refine forall_mem_if (among_flat_map (fun block => ?_) _)
    refine among_map (fun found => ?_) _
    exact List.mem_cons_self
  · refine forall_mem_if fun violation member => ?_
    obtain ⟨prop, -, mutated⟩ := List.mem_filterMap.mp member
    obtain ⟨found, -, rfl⟩ := Option.map_eq_some_iff.mp mutated
    exact List.mem_cons_self
  · refine forall_mem_if (among_map (fun found => ?_) _)
    exact List.mem_cons_self
  · exact forall_mem_if (among_single List.mem_cons_self)

theorem anti_patterns_parts (rules : Rules) :
    checkAntiPatterns rules outline descriptor =
      (antiPatternParts rules outline descriptor).flatMap (·.2) := by
  simp [checkAntiPatterns, antiPatternParts]

def laterRules : List String :=
  ["prop-validation", "event-naming", "script-setup-usage", "missing-v-for-key"]

def practiceRules : List String := ["prop-validation", "event-naming", "script-setup-usage"]

theorem practices_named (rules : BestPracticeRules) :
    Among Violation.rule practiceRules (checkBestPractices rules outline descriptor) := by
  refine among_append (among_append ?_ ?_) ?_
  · exact forall_mem_if (among_single (by simp [practiceRules]))
  · refine forall_mem_if (among_map (fun event => ?_) _)
    simp [practiceRules]
  · exact forall_mem_if (among_single (by simp [practiceRules]))

theorem best_practices_named (rules : BestPracticeRules) :
    Among Violation.rule laterRules (checkBestPractices rules outline descriptor) := by
  have later : practiceRules ⊆ laterRules := by decide
  exact fun violation member => later (practices_named rules violation member)

theorem loop_keys_own (rules : TemplateRules) (template : Option Block) :
    Among Violation.rule ["missing-v-for-key"] (checkLoopKeys rules template) := by
  refine forall_mem_if (among_flat_map (fun block => ?_) _)
  refine among_map (fun found => ?_) _
  exact List.mem_cons_self

theorem loop_keys_named (rules : TemplateRules) (template : Option Block) :
    Among Violation.rule laterRules (checkLoopKeys rules template) := by
  have later : ["missing-v-for-key"] ⊆ laterRules := by decide
  exact fun violation member => later (loop_keys_own rules template violation member)

variable (rules : Rules) (descriptor : Descriptor) (analysis : Analysis)

theorem anti_pattern_violations {part : String × List Violation}
    (member : part ∈ antiPatternParts rules analysis.outline descriptor) :
    (violations rules descriptor analysis).filter (·.rule == part.1) =
      if rules.antiPatterns.enabled then part.2 else [] := by
  have elsewhere : ∀ name ∈ ["mixin-usage", "filter-deprecated", "v-if-with-v-for", "prop-mutation",
      "parent-access", "god-component"], name ∉ laterRules := by decide
  have other := elsewhere part.1 (List.mem_map_of_mem member)
  simp only [violations, anti_patterns_parts, List.filter_append, filter_if,
    filter_part (anti_pattern_partition rules) member, filter_other (best_practices_named _) other,
    filter_other (loop_keys_named _ _) other, ite_self, List.append_nil]

theorem loop_key_violations :
    (violations rules descriptor analysis).filter (·.rule == "missing-v-for-key") =
      if rules.template.enabled then checkLoopKeys rules.template descriptor.template else [] := by
  have elsewhere : "missing-v-for-key" ∉ (antiPatternParts rules analysis.outline descriptor).map
      (·.1) := by simp [antiPatternParts]
  have elsewhere' : "missing-v-for-key" ∉ practiceRules := by decide
  simp only [violations, anti_patterns_parts, List.filter_append, filter_if,
    filter_other (among_parts (anti_pattern_partition rules).named) elsewhere,
    filter_other (practices_named _) elsewhere', filter_own (loop_keys_own _ _), ite_self,
    List.nil_append]

variable {rules descriptor analysis}

theorem anti_pattern_origin {violation : Violation} {part : String × List Violation}
    (own : part ∈ antiPatternParts rules analysis.outline descriptor)
    (member : violation ∈ violations rules descriptor analysis)
    (named : violation.rule = part.1) : violation ∈ part.2 := by
  have kept : violation ∈ (violations rules descriptor analysis).filter (·.rule == part.1) :=
    List.mem_filter.mpr ⟨member, beq_iff_eq.mpr named⟩
  rw [anti_pattern_violations rules descriptor analysis own] at kept
  split at kept
  · exact kept
  · exact absurd kept List.not_mem_nil

end Violations

end PatternInspector.Component
