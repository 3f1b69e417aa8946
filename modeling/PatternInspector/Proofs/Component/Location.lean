import PatternInspector.Proofs.Component.Placement
import PatternInspector.Proofs.Component.Scan
import PatternInspector.Proofs.Finding.Evidence

/-!
Locations of findings. Every check takes its locations from places of one of the blocks it is given,
so what holds of all places of the blocks holds of all locations of a report. The main statement is
that blocks keep the lines of the component and that every report points at lines that exist.
-/
namespace PatternInspector.Component

open PatternInspector.Text (Reader)

section Places

variable {holds : Location → Prop} {block : Option Block} {outline : Outline}

def Places (holds : Location → Prop) (block : Option Block) : Prop :=
  ∀ index kind, holds (locate block index kind)

theorem places_word (own : Places holds block) (word : String) (kind : BlockKind) :
    holds (locateWord block word kind) :=
  own _ kind

end Places

section Detections

variable {holds : Location → Prop} {outline : Outline}

theorem composables_located {rules : ComposableRules} {block : Option Block}
    {found : List Definition} (own : Places holds block) :
    ∀ detection ∈ detectComposables rules outline block found, holds detection.location := by
  cases block with
  | none => simp [detectComposables]
  | some block =>
      refine List.forall_mem_append.mpr ⟨?_, ?_⟩
      · rw [List.forall_mem_map]
        exact fun definition _ => own definition.start .script
      · unfold usageDetection?
        split
        next => simp
        next first others _ => simpa using places_word own first .script

theorem smart_dumb_located {rules : ComponentRules} {block : Option Block}
    (own : Places holds block) :
    ∀ detection ∈ detectSmartDumb rules outline block, holds detection.location :=
  forall_mem_if (List.forall_mem_singleton.mpr (own 0 .script))

theorem built_in_located {block : Block} {pattern label : String} {names : List String}
    (own : Places holds block) :
    ∀ detection ∈ detectBuiltIn pattern label names outline block, holds detection.location := by
  unfold detectBuiltIn
  split
  next => simp
  next found _ => exact List.forall_mem_singleton.mpr (own found.start .template)

theorem template_located {block : Block} (own : Places holds block) :
    ∀ detection ∈ detectTemplate outline block, holds detection.location := by
  refine List.forall_mem_append.mpr ⟨List.forall_mem_append.mpr ⟨List.forall_mem_append.mpr
    ⟨List.forall_mem_append.mpr ⟨?_, ?_⟩, ?_⟩, ?_⟩, ?_⟩
  · unfold detectNamedSlots
    split
    next => simp
    next => exact List.forall_mem_singleton.mpr (own _ .template)
  · unfold detectScopedSlots
    split
    next => simp
    next => exact List.forall_mem_singleton.mpr (own _ .template)
  · exact forall_mem_if (List.forall_mem_singleton.mpr (own _ .template))
  · exact built_in_located own
  · exact built_in_located own

theorem provide_inject_located {block : Option Block} (own : Places holds block) :
    ∀ detection ∈ detectProvideInject outline block, holds detection.location := by
  unfold detectProvideInject
  dsimp only
  split
  next => simp
  next first _ => exact List.forall_mem_singleton.mpr (own first .script)

theorem options_located {block : Option Block} (own : Places holds block) :
    ∀ detection ∈ detectOptions outline block, holds detection.location := by
  refine forall_mem_if ?_
  refine List.forall_mem_append.mpr ⟨List.forall_mem_append.mpr
    ⟨List.forall_mem_append.mpr ⟨?_, ?_⟩, ?_⟩, ?_⟩
  · exact forall_mem_if (List.forall_mem_singleton.mpr (own 0 .script))
  · exact forall_mem_unless (List.forall_mem_singleton.mpr (places_word own _ _))
  · exact forall_mem_unless (List.forall_mem_singleton.mpr (places_word own _ _))
  · exact forall_mem_unless (List.forall_mem_singleton.mpr (places_word own _ _))

structure PlacesOf (holds : Location → Prop) (descriptor : Descriptor) : Prop where
  template : Places holds descriptor.template
  script : Places holds descriptor.script
  primary : Places holds descriptor.primaryScript

theorem components_located {rules : ComponentRules} {descriptor : Descriptor}
    (own : PlacesOf holds descriptor) :
    ∀ detection ∈ detectComponents rules outline descriptor, holds detection.location := by
  refine List.forall_mem_append.mpr ⟨List.forall_mem_append.mpr ⟨?_, ?_⟩, ?_⟩
  · exact smart_dumb_located own.primary
  · have template := own.template
    generalize descriptor.template = given at template
    cases given with
    | none => simp
    | some block => simpa using template_located template
  · exact provide_inject_located own.primary

theorem detections_located {rules : Rules} {descriptor : Descriptor} {analysis : Analysis}
    (own : PlacesOf holds descriptor) :
    ∀ detection ∈ detections rules descriptor analysis, holds detection.location := by
  refine List.forall_mem_append.mpr ⟨List.forall_mem_append.mpr ⟨?_, ?_⟩, ?_⟩
  · exact forall_mem_if (composables_located own.primary)
  · exact forall_mem_if (components_located own)
  · exact options_located own.script

end Detections

section Violations

variable {holds : Location → Prop} {outline : Outline} {descriptor : Descriptor}

theorem found_located {α : Type} {template : Option Block} {searched : Block → List (Reader.Found α)}
    {violation : Block → Reader.Found α → Violation}
    (placed : ∀ block found, (violation block found).location =
      locate (some block) found.start .template)
    (own : Places holds template) :
    ∀ item ∈ template.toList.flatMap (fun block => (searched block).map (violation block)),
      holds item.location := by
  cases template with
  | none => simp
  | some block =>
      simp only [Option.toList_some, List.flatMap_singleton, List.forall_mem_map, placed]
      exact fun found _ => own found.start .template

theorem anti_patterns_located {rules : Rules} (own : PlacesOf holds descriptor) :
    ∀ violation ∈ checkAntiPatterns rules outline descriptor, holds violation.location := by
  refine List.forall_mem_append.mpr ⟨List.forall_mem_append.mpr ⟨List.forall_mem_append.mpr
    ⟨List.forall_mem_append.mpr ⟨List.forall_mem_append.mpr ⟨?_, ?_⟩, ?_⟩, ?_⟩, ?_⟩, ?_⟩
  · exact forall_mem_if (List.forall_mem_singleton.mpr (places_word own.script _ _))
  · exact forall_mem_if (List.forall_mem_singleton.mpr (places_word own.script _ _))
  · exact forall_mem_if (found_located (fun _ _ => rfl) own.template)
  · refine forall_mem_if fun violation member => ?_
    obtain ⟨prop, _, mutated⟩ := List.mem_filterMap.mp member
    obtain ⟨found, _, rfl⟩ := Option.map_eq_some_iff.mp mutated
    exact own.primary found.start .script
  · refine forall_mem_if (List.forall_mem_map.mpr fun found _ => ?_)
    exact own.primary found.start .script
  · exact forall_mem_if (List.forall_mem_singleton.mpr (own.primary 0 .script))

theorem best_practices_located {rules : BestPracticeRules} (own : PlacesOf holds descriptor) :
    ∀ violation ∈ checkBestPractices rules outline descriptor, holds violation.location := by
  refine List.forall_mem_append.mpr ⟨List.forall_mem_append.mpr ⟨?_, ?_⟩, ?_⟩
  · exact forall_mem_if (List.forall_mem_singleton.mpr (places_word own.primary _ _))
  · refine forall_mem_if (List.forall_mem_map.mpr fun event _ => ?_)
    exact places_word own.primary event .script
  · exact forall_mem_if (List.forall_mem_singleton.mpr (own.script 0 .script))

theorem violations_located {rules : Rules} {analysis : Analysis}
    (own : PlacesOf holds descriptor) :
    ∀ violation ∈ violations rules descriptor analysis, holds violation.location := by
  refine List.forall_mem_append.mpr ⟨List.forall_mem_append.mpr ⟨?_, ?_⟩, ?_⟩
  · exact forall_mem_if (anti_patterns_located own)
  · exact forall_mem_if (best_practices_located own)
  · exact forall_mem_if (forall_mem_if (found_located (fun _ _ => rfl) own.template))

end Violations

section Reports

variable {code : Text} {filename : String} {descriptor : Descriptor}

def Report.locations (report : Report) : List Location :=
  report.detections.map (·.location) ++ report.violations.map (·.location)

def OnLine (code : Text) (location : Location) : Prop :=
  1 ≤ location.line ∧ location.line ≤ 1 + Text.newlines code

theorem held_on_line {block : Option Block}
    (stands : ∀ given, block = some given → ∃ start, StandsAt code given start) :
    Places (OnLine code) block := by
  intro index kind
  cases block with
  | none => exact ⟨Nat.le_refl 1, Nat.le_add_right 1 _⟩
  | some given =>
      obtain ⟨start, stands⟩ := stands given rfl
      exact line_of_bounded stands index

theorem descriptor_on_line (result : split code filename = .ok descriptor) :
    PlacesOf (OnLine code) descriptor := by
  refine ⟨held_on_line fun given present => ?_, held_on_line fun given present => ?_,
    held_on_line fun given present => ?_⟩
  · have member : given ∈ descriptor.held .template := by simp [Descriptor.held, present]
    exact held_stands result member
  · have member : given ∈ descriptor.held .script := by simp [Descriptor.held, present]
    exact held_stands result member
  · obtain ⟨shelf, member⟩ := primary_held present
    exact held_stands result member

theorem split_fault_line {position skip : Nat} {text : Text} {fault : SplitFault}
    (failed : splitFrom code descriptor position skip text = .error fault) :
    ∃ index, fault.line = Text.lineAt code index := by
  induction text generalizing descriptor position skip with
  | nil => cases failed
  | cons c text ih =>
      cases skip with
      | succ left => exact ih failed
      | zero =>
          rw [splitFrom] at failed
          split at failed
          next =>
            split at failed
            next =>
              obtain rfl := Except.error.inj failed
              exact ⟨position, rfl⟩
            next => exact ih failed
            next => exact ih failed
            next =>
              dsimp only at failed
              split at failed
              next =>
                obtain rfl := Except.error.inj failed
                exact ⟨position, rfl⟩
              next => exact ih failed
          next => exact ih failed

theorem validate_on_line (rules : Rules) (code : Text) (filename : String) :
    ∃ report, validate rules code filename = .ok report ∧
      ∀ location ∈ report.locations, OnLine code location := by
  unfold validate validateBy
  cases result : split code filename with
  | error fault =>
      obtain ⟨index, line⟩ := split_fault_line result
      have bound := Text.newlines_take_le code index
      refine ⟨_, rfl, List.forall_mem_append.mpr ⟨by simp [faultReport], ?_⟩⟩
      refine List.forall_mem_map.mpr (List.forall_mem_singleton.mpr ?_)
      rw [Text.lineAt] at line
      constructor <;> dsimp only <;> omega
  | ok descriptor =>
      have own := descriptor_on_line result
      obtain ⟨analysis, analyzed⟩ := analyze_succeeds descriptor
      dsimp only
      rw [analyzed]
      refine ⟨_, rfl, List.forall_mem_append.mpr ⟨?_, ?_⟩⟩
      · exact List.forall_mem_map.mpr (detections_located own)
      · exact List.forall_mem_map.mpr (violations_located own)

/-- Lines counted in a block are lines of the whole component: its contents are spans of the text
that follow one another, shelf by shelf, and reports point at existing lines only. -/
theorem component_lines_absolute (rules : Rules) (code : Text) (filename : String) :
    (∀ descriptor, split code filename = .ok descriptor →
      ∃ placed : List (Block × Nat),
        (∀ shelf, descriptor.held shelf = onShelf shelf (placed.map Prod.fst)) ∧
        (∀ span ∈ placed,
          Text.slice code span.2 (span.2 + span.1.content.length) = span.1.content ∧
          ∀ index : Int, index ≤ span.1.content.length →
            span.1.lineOf index = 1 + Text.newlines (code.take (span.2 + index.toNat))) ∧
        placed.Pairwise fun one two => one.2 + one.1.content.length ≤ two.2) ∧
    ∃ report, validate rules code filename = .ok report ∧
      ∀ location ∈ report.locations,
        1 ≤ location.line ∧ location.line ≤ 1 + Text.newlines code := by
  refine ⟨fun descriptor result => ?_, validate_on_line rules code filename⟩
  obtain ⟨placed, spans, held⟩ := split_spans result
  refine ⟨placed, held, fun span member => ?_, spans.ordered⟩
  have stands := spans.stands span member
  exact ⟨stands.content, fun index inside => line_of_standing stands inside⟩

end Reports

end PatternInspector.Component
