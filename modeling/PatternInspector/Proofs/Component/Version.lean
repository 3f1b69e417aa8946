import PatternInspector.Proofs.Component.Gathering
import PatternInspector.Proofs.Component.Origin

/-!
Versions and the findings that depend on them. A sign of the composition interface always means
version 3, and a use of the options interface rules out that the version stays unknown. So mixins and
filters are either a pattern of version 2 or a violation of version 3, and never go unreported.
-/
namespace PatternInspector.Component

open PatternInspector.Text (Reader)

section Inference

variable {outline : Outline} {script scriptSetup : Text}

structure Coherent (outline : Outline) : Prop where
  composition : outline.usesCompositionApi = true → outline.version = .three
  options : outline.usesOptionsApi = true → outline.version ≠ .three → outline.version = .two

-- Only the text of a setup script is no sign for the version, and it implies one that is.
theorem infer_composition
    (written : Text.strip scriptSetup ≠ [] → outline.isScriptSetup = true)
    (sign : detectCompositionApi script scriptSetup outline = true) :
    inferVersion outline script scriptSetup = .three := by
  simp only [detectCompositionApi, Bool.or_eq_true, Bool.not_eq_true', List.isEmpty_eq_false_iff]
    at sign
  rcases sign with ((setup | function) | imported) | text
  · simp [inferVersion, setup]
  · simp [inferVersion, function]
  · simp [inferVersion, imported]
  · simp [inferVersion, written text]

theorem infer_options (options : outline.usesOptionsApi = true)
    (plain : outline.usesCompositionApi = false)
    (earlier : inferVersion outline script scriptSetup ≠ .three) :
    inferVersion outline script scriptSetup = .two := by
  -- Behind the signs of version 3 the last test succeeds, whatever the two before it say.
  simp only [inferVersion, options, plain, Bool.not_false, Bool.and_self] at earlier ⊢
  split_ifs at earlier ⊢
  all_goals first | rfl | exact absurd rfl earlier

theorem with_version_coherent
    (written : Text.strip scriptSetup ≠ [] → outline.isScriptSetup = true) :
    Coherent (withVersion script scriptSetup outline) := by
  have composition : (withVersion script scriptSetup outline).usesCompositionApi = true →
      (withVersion script scriptSetup outline).version = .three :=
    fun sign => infer_composition written sign
  refine ⟨composition, fun options earlier => ?_⟩
  refine infer_options options ?_ earlier
  exact Bool.eq_false_iff.mpr fun sign => earlier (composition sign)

theorem extract_coherent {descriptor : Descriptor} (extracted : extract descriptor = .ok outline) :
    Coherent outline := by
  obtain ⟨gathered, holds, rfl⟩ := extract_gathers extracted
  have coherent := @with_version_coherent gathered (contentOf descriptor.script)
    (contentOf descriptor.scriptSetup) fun text => by
      rw [holds.setup]
      cases given : descriptor.scriptSetup with
      | none => exact absurd rfl (given ▸ text)
      | some block => rfl
  exact ⟨coherent.composition, coherent.options⟩

end Inference

section Members

theorem distinct_eq_nil {names : List String} : distinct names = [] ↔ names = [] := by
  cases names <;> simp [distinct]

variable {descriptor : Descriptor} {outline : Outline}

theorem legacy_uses_options (extracted : extract descriptor = .ok outline)
    (used : outline.mixins ≠ [] ∨ outline.filters ≠ []) : outline.usesOptionsApi = true := by
  obtain ⟨gathered, -, rfl⟩ := extract_gathers extracted
  have found : gathered.mixins ≠ [] ∨ gathered.filters ≠ [] :=
    used.imp (mt distinct_eq_nil.mpr) (mt distinct_eq_nil.mpr)
  rcases found with mixed | filtered
  · simp [withoutRepetitions, withVersion, detectOptionsApi, mixed]
  · simp [withoutRepetitions, withVersion, detectOptionsApi, filtered]

end Members

section Reports

def Report.detected (report : Report) (pattern : String) : Nat :=
  report.detections.countP (·.pattern == pattern)

def Report.violated (report : Report) (rule : String) : Nat :=
  report.violations.countP (·.rule == rule)

variable {outline : Outline}

-- The options interface leaves two versions, and each of them admits one of the two findings.
theorem once_by_version {detection : Detection} {violation : Violation}
    (coherent : Coherent outline) (options : outline.usesOptionsApi = true) :
    (if outline.usesOptionsApi && outline.version == .two then [detection] else []).length +
      (if outline.version == .three then [violation] else []).length = 1 := by
  by_cases three : outline.version = .three
  · simp [three]
  · have two := coherent.options options three
    simp [two, options]

variable {rules : Rules} {descriptor : Descriptor} {analysis : Analysis}

theorem legacy_reported_once {names : List String} {pattern rule : String} {detection : Detection}
    {violation : Violation} (extracted : extract descriptor = .ok analysis.outline)
    (enabled : rules.antiPatterns.enabled = true)
    (legacy : names ≠ [] → analysis.outline.mixins ≠ [] ∨ analysis.outline.filters ≠ [])
    (detected : (pattern, if names.isEmpty then [] else [detection]) ∈
      optionParts analysis.outline descriptor.script)
    (violated : (rule, if !names.isEmpty && analysis.outline.version == .three then [violation]
      else []) ∈ antiPatternParts rules analysis.outline descriptor) :
    ((detections rules descriptor analysis).filter (·.pattern == pattern)).length +
      ((violations rules descriptor analysis).filter (·.rule == rule)).length =
        if names = [] then 0 else 1 := by
  rw [option_detections rules descriptor analysis detected,
    anti_pattern_violations rules descriptor analysis violated, if_pos enabled]
  by_cases none : names = []
  · simp [none]
  · have some : names.isEmpty = false := List.isEmpty_eq_false_iff.mpr none
    simp only [some, none, Bool.not_false, Bool.true_and, Bool.false_eq_true, ↓reduceIte]
    exact once_by_version (extract_coherent extracted) (legacy_uses_options extracted (legacy none))

theorem mixins_part (wanted : rules.antiPatterns.detectMixins = true) (outline : Outline) :
    ∃ violation, ("mixin-usage", if !outline.mixins.isEmpty && outline.version == .three then
      [violation] else []) ∈ antiPatternParts rules outline descriptor := by
  rw [antiPatternParts, checkMixins, wanted, Bool.true_and]
  exact ⟨_, List.mem_cons_self⟩

/-- The version of every component agrees with the interfaces it uses, and where anti-patterns are
reported, mixins and filters are reported once: as a pattern of version 2 or as a violation. -/
theorem version_decides_findings {code : Text} {filename : String}
    (result : split code filename = .ok descriptor) (rules : Rules) :
    ∃ outline report, extract descriptor = .ok outline ∧
      validate rules code filename = .ok report ∧ report.component = some outline ∧
      (outline.usesCompositionApi = true → outline.version = .three) ∧
      (outline.version = .two → outline.usesCompositionApi = false) ∧
      (outline.usesOptionsApi = true → outline.version ≠ .three → outline.version = .two) ∧
      (outline.version = .unknown →
        outline.usesOptionsApi = false ∧ outline.usesCompositionApi = false) ∧
      (rules.antiPatterns.enabled = true →
        (rules.antiPatterns.detectMixins = true →
          report.detected "vue2-mixins" + report.violated "mixin-usage" =
            if outline.mixins = [] then 0 else 1) ∧
        report.detected "vue2-filters" + report.violated "filter-deprecated" =
          if outline.filters = [] then 0 else 1) := by
  obtain ⟨analysis, extracted, validated⟩ := validate_split rules result
  have coherent := extract_coherent extracted
  have plain : analysis.outline.version ≠ .three → analysis.outline.usesCompositionApi = false :=
    fun earlier => Bool.eq_false_iff.mpr fun sign => earlier (coherent.composition sign)
  refine ⟨analysis.outline, _, extracted, validated, rfl, coherent.composition, ?_,
    coherent.options, ?_, ?_⟩
  · intro two
    exact plain (by simp [two])
  · intro unknown
    refine ⟨Bool.eq_false_iff.mpr fun options => ?_, plain (by simp [unknown])⟩
    have two := coherent.options options (by simp [unknown])
    simp [unknown] at two
  · intro enabled
    simp only [Report.detected, Report.violated, List.countP_eq_length_filter]
    constructor
    · intro wanted
      obtain ⟨violation, part⟩ := mixins_part wanted analysis.outline
      exact legacy_reported_once extracted enabled Or.inl
        (List.mem_cons_of_mem _ List.mem_cons_self) part
    · exact legacy_reported_once extracted enabled Or.inr
        (List.mem_cons_of_mem _ (List.mem_cons_of_mem _ List.mem_cons_self))
        (List.mem_cons_of_mem _ List.mem_cons_self)

def legacyComponent : Text :=
  "<script>export default \x7b mixins: [m], filters: \x7b f(x) \x7b\x7d \x7d \x7d</script>".toList

theorem legacy_component_reported :
    ∃ outline report, validate {} legacyComponent "Old.vue" = .ok report ∧
      report.component = some outline ∧ outline.version = .two ∧ outline.mixins = ["m"] ∧
      outline.filters = ["f"] ∧
      report.detected "vue2-mixins" + report.violated "mixin-usage" = 1 ∧
      report.detected "vue2-filters" + report.violated "filter-deprecated" = 1 := by
  have facts : ((split legacyComponent "Old.vue").toOption.bind fun descriptor =>
      (extract descriptor).toOption.map fun outline =>
        (outline.version, outline.mixins, outline.filters)) = some (.two, ["m"], ["f"]) := by
    decide +kernel
  obtain ⟨descriptor, accepted, found⟩ := Option.bind_eq_some_iff.mp facts
  obtain ⟨outline, report, extracted, validated, held, -, -, -, -, gates⟩ :=
    version_decides_findings (ok_of_to_option accepted) {}
  obtain ⟨mixins, filters⟩ := gates rfl
  simp only [extracted, Except.toOption, Option.map_some, Option.some.injEq, Prod.mk.injEq] at found
  obtain ⟨version, mixed, filtered⟩ := found
  refine ⟨outline, report, validated, held, version, mixed, filtered, ?_, ?_⟩
  · simpa [mixed] using mixins rfl
  · simpa [filtered] using filters

end Reports

end PatternInspector.Component
