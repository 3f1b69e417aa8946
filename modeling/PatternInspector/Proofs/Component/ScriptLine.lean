import PatternInspector.Proofs.Component.Gathering
import PatternInspector.Proofs.Component.Origin
import PatternInspector.Proofs.Component.Placement

/-!
Lines of findings in scripts. The text that is searched and the block whose lines are counted are
chosen apart: the text prefers a setup script that is not empty, the lines any setup script. Where
both choices agree, a finding stands on the line of its match; where they differ, every finding is
reported on the line of the empty setup script.
-/
namespace PatternInspector.Component

open PatternInspector.Text (Reader)
open PatternInspector.Text.Reader

section Choice

variable {descriptor : Descriptor} {outline : Outline}

/-- An empty setup script stands beside a plain script with text. -/
def SetupHides (descriptor : Descriptor) : Prop :=
  ∃ setup script, descriptor.scriptSetup = some setup ∧ setup.content = [] ∧
    descriptor.script = some script ∧ script.content ≠ []

theorem searched_is_primary_iff (holds : HoldsTexts descriptor outline) :
    outline.primaryScript = contentOf descriptor.primaryScript ↔ ¬ SetupHides descriptor := by
  rw [Outline.primaryScript, holds.scriptSetup, holds.script, SetupHides, Descriptor.primaryScript]
  cases descriptor.scriptSetup with
  | none => simp [contentOf]
  | some setup =>
      cases written : setup.content with
      | cons c rest => simp [contentOf, written]
      | nil => cases descriptor.script <;> simp [contentOf, written]

end Choice

section Matches

variable {α : Type} {reader : Reader α} {code : Text} {descriptor : Descriptor}

def Quotes (reader : Reader Text) : Prop := Covers reader fun passed value => value = passed

theorem quotes_matched {form : Text → α → Prop} (covers : Covers reader form) :
    Quotes (matched reader) :=
  covers_mono (covers_matched covers) fun _ _ given => given.1

theorem quoted_value {reader : Reader Text} (quotes : Quotes reader) {text : Text}
    {found : Found Text} (searched : search reader text = some found) :
    found.value = Text.slice text found.start found.stop := by
  obtain ⟨left, read, right, rfl, same, start, stop⟩ := search_found quotes searched
  have length : found.stop - left.length = read.length := by omega
  rw [same, Text.slice, start, Nat.zero_add, List.drop_left, length, List.take_left]

/-- The first match of the reader in the primary script starts at `place` of the component, which
reads `read` there. -/
def FirstMatch (code : Text) (descriptor : Descriptor) (reader : Reader α) (place : Nat)
    (read : Text) : Prop :=
  ∃ block start found, descriptor.primaryScript = some block ∧ StandsAt code block start ∧
    search reader block.content = some found ∧ place = start + found.start ∧
    read = Text.slice block.content found.start found.stop ∧ read <+: code.drop place

theorem read_stands {block : Block} {start : Nat} {left read right : Text}
    (stands : StandsAt code block start) (split : block.content = left ++ (read ++ right)) :
    read <+: code.drop (start + left.length) := by
  have inside : block.content <+: code.drop start := by
    have content := stands.content
    rw [Text.slice, Nat.add_sub_cancel_left] at content
    exact content ▸ List.take_prefix _ _
  obtain ⟨rest, whole⟩ := inside
  rw [← List.drop_drop, ← whole, split, List.append_assoc, List.drop_left, List.append_assoc]
  exact List.prefix_append read _

theorem search_empty (fails : Fails reader []) : search reader [] = none := by
  simp [search, searchFrom, fails_first fails]

theorem match_on_line {filename : String} (result : split code filename = .ok descriptor)
    [advances : Advances reader] (fails : Fails reader []) {found : Found α}
    (searched : search reader (contentOf descriptor.primaryScript) = some found) :
    ∃ place, FirstMatch code descriptor reader place
        (Text.slice (contentOf descriptor.primaryScript) found.start found.stop) ∧
      (locate descriptor.primaryScript found.start .script).line =
        1 + Text.newlines (code.take place) := by
  cases present : descriptor.primaryScript with
  | none =>
      rw [present, show contentOf none = [] from rfl, search_empty fails] at searched
      cases searched
  | some block =>
      rw [present] at searched
      obtain ⟨shelf, member⟩ := primary_held present
      obtain ⟨start, stands⟩ := held_stands result member
      obtain ⟨left, read, right, split, -, first, stop⟩ := search_found advances.covers searched
      have content : block.content = left ++ (read ++ right) := split
      have begin : found.start = left.length := by omega
      have length : found.stop - left.length = read.length := by omega
      have covered : Text.slice block.content found.start found.stop = read := by
        rw [content, Text.slice, begin, List.drop_left, length, List.take_left]
      have bound : (found.start : Int) ≤ block.content.length := by
        rw [content, begin, List.length_append]
        omega
      refine ⟨start + found.start, ⟨block, start, found, present, stands, searched, rfl, rfl, ?_⟩, ?_⟩
      · change Text.slice block.content found.start found.stop <+: _
        rw [covered, begin]
        exact read_stands stands content
      · exact line_of_standing stands bound

end Matches

section Readers

def injection : Reader Unit := orElse (injectionCall "provide") (injectionCall "inject")

instance (rejects : Char → Bool) : Advances (notBefore rejects) :=
  advances_of_covers (covers_provided _)

instance (name : String) : Advances (injectionCall name) := by
  unfold injectionCall
  infer_instance

instance : Advances injection := by
  unfold injection
  infer_instance

theorem parent_access_quotes : Quotes parentAccess := quotes_matched Advances.covers

instance : Advances parentAccess := advances_of_covers parent_access_quotes

theorem prop_assignment_quotes (prop : Text) : Quotes (propAssignment prop) :=
  quotes_matched (covers_bind (covers_provided _) fun _ => Advances.covers)

instance (prop : Text) : Advances (propAssignment prop) :=
  advances_of_covers (prop_assignment_quotes prop)

theorem fails_past {α β : Type} {reader : Reader α} {next : α → Reader β}
    [advances : Advances reader] (refused : ∀ value, Fails (next value) []) :
    Fails (reader >>= next) [] := by
  refine fails_covered advances.covers fun passed after value split _ => ?_
  rw [(List.append_eq_nil_iff.mp split.symm).2]
  exact refused value

theorem parent_access_fails : Fails parentAccess [] := fun _ _ => rfl

theorem injection_fails : Fails injection [] :=
  fails_or (fails_past fun _ => fails_past fun _ => fails_bind (fails_char (Text.avoids_nil _)) _)
    (fails_past fun _ => fails_past fun _ => fails_bind (fails_char (Text.avoids_nil _)) _)

theorem prop_assignment_fails (prop : Text) : Fails (propAssignment prop) [] := by
  refine fails_matched (fails_past fun _ => fails_past fun _ => fails_past fun _ =>
    fails_past fun _ => fails_past fun _ => ?_)
  exact fails_bind (fails_single (Text.avoids_nil _)) _

end Readers

section Findings

variable {rules : Rules} {descriptor : Descriptor} {analysis : Analysis}

theorem prop_mutation_found {violation : Violation}
    (member : violation ∈ violations rules descriptor analysis)
    (named : violation.rule = "prop-mutation") :
    ∃ prop ∈ analysis.outline.props, ∃ found,
      search (propAssignment prop.toList) analysis.outline.primaryScript = some found ∧
      violation.evidence = [String.ofList (Text.strip found.value)] ∧
      violation.location = locate descriptor.primaryScript found.start .script := by
  have part : ("prop-mutation", checkPropMutation rules.antiPatterns analysis.outline
      descriptor.primaryScript) ∈ antiPatternParts rules analysis.outline descriptor := by
    simp [antiPatternParts]
  have checked := anti_pattern_origin part member named
  dsimp only [checkPropMutation] at checked
  split at checked
  · obtain ⟨prop, declared, mutated⟩ := List.mem_filterMap.mp checked
    obtain ⟨found, searched, rfl⟩ := Option.map_eq_some_iff.mp mutated
    exact ⟨prop, declared, found, searched, rfl, rfl⟩
  · exact absurd checked List.not_mem_nil

theorem parent_access_found {violation : Violation}
    (member : violation ∈ violations rules descriptor analysis)
    (named : violation.rule = "parent-access") :
    ∃ found, search parentAccess analysis.outline.primaryScript = some found ∧
      violation.message = String.ofList found.value ++ "へのアクセスを検出しました" ∧
      violation.location = locate descriptor.primaryScript found.start .script := by
  have part : ("parent-access", checkParentAccess rules.antiPatterns analysis.outline
      descriptor.primaryScript) ∈ antiPatternParts rules analysis.outline descriptor := by
    simp [antiPatternParts]
  have checked := anti_pattern_origin part member named
  dsimp only [checkParentAccess] at checked
  split at checked
  · obtain ⟨found, searched, rfl⟩ := List.mem_map.mp checked
    exact ⟨found, Option.mem_toList.mp searched, rfl, rfl⟩
  · exact absurd checked List.not_mem_nil

theorem provide_inject_found {detection : Detection}
    (member : detection ∈ detections rules descriptor analysis)
    (named : detection.pattern = "provide-inject") :
    ∃ found, search injection analysis.outline.primaryScript = some found ∧
      detection.location = locate descriptor.primaryScript found.start .script := by
  have kept : detection ∈ (detections rules descriptor analysis).filter
      (·.pattern == "provide-inject") := List.mem_filter.mpr ⟨member, beq_iff_eq.mpr named⟩
  rw [provide_inject_detections] at kept
  split at kept
  · have earlier := search_or_start (injectionCall "provide") (injectionCall "inject")
      analysis.outline.primaryScript
    dsimp only [detectProvideInject] at kept
    rw [← earlier] at kept
    split at kept
    · exact absurd kept List.not_mem_nil
    next first start =>
      obtain ⟨found, searched, rfl⟩ := Option.map_eq_some_iff.mp start
      obtain rfl := List.mem_singleton.mp kept
      exact ⟨found, searched, rfl⟩
  · exact absurd kept List.not_mem_nil

end Findings

section Reports

variable {code : Text} {filename : String} {descriptor : Descriptor}

def Report.scriptLocations (report : Report) : List Location :=
  (report.violations.filter fun violation =>
    violation.rule == "prop-mutation" || violation.rule == "parent-access").map (·.location) ++
  (report.detections.filter (·.pattern == "provide-inject")).map (·.location)

theorem script_located {rules : Rules} {analysis : Analysis} {location : Location}
    (member : location ∈ Report.scriptLocations {
      filename
      component := analysis.outline
      detections := detections rules descriptor analysis
      violations := violations rules descriptor analysis }) :
    ∃ index, location = locate descriptor.primaryScript index .script := by
  rcases List.mem_append.mp member with broken | found
  · obtain ⟨violation, kept, rfl⟩ := List.mem_map.mp broken
    obtain ⟨given, named⟩ := List.mem_filter.mp kept
    rcases Bool.or_eq_true .. ▸ named with mutation | access
    · obtain ⟨prop, -, found, -, -, place⟩ := prop_mutation_found given (beq_iff_eq.mp mutation)
      exact ⟨found.start, place⟩
    · obtain ⟨found, -, -, place⟩ := parent_access_found given (beq_iff_eq.mp access)
      exact ⟨found.start, place⟩
  · obtain ⟨detection, kept, rfl⟩ := List.mem_map.mp found
    obtain ⟨given, named⟩ := List.mem_filter.mp kept
    obtain ⟨found, -, place⟩ := provide_inject_found given (beq_iff_eq.mp named)
    exact ⟨found.start, place⟩

/-- Findings in a script stand on the lines of their matches, except beside an empty setup script that
hides a plain one: those are all reported on the line of the empty script. -/
theorem script_findings_on_lines (result : split code filename = .ok descriptor) (rules : Rules) :
    ∃ outline report, extract descriptor = .ok outline ∧
      validate rules code filename = .ok report ∧
      (outline.primaryScript = contentOf descriptor.primaryScript ↔ ¬ SetupHides descriptor) ∧
      (¬ SetupHides descriptor →
        (∀ violation ∈ report.violations, violation.rule = "prop-mutation" →
          ∃ prop ∈ outline.props, ∃ place read,
            FirstMatch code descriptor (propAssignment prop.toList) place read ∧
            violation.evidence = [String.ofList (Text.strip read)] ∧
            violation.location.line = 1 + Text.newlines (code.take place)) ∧
        (∀ violation ∈ report.violations, violation.rule = "parent-access" →
          ∃ place read, FirstMatch code descriptor parentAccess place read ∧
            violation.message = String.ofList read ++ "へのアクセスを検出しました" ∧
            violation.location.line = 1 + Text.newlines (code.take place)) ∧
        ∀ detection ∈ report.detections, detection.pattern = "provide-inject" →
          ∃ place read, FirstMatch code descriptor injection place read ∧
            detection.location.line = 1 + Text.newlines (code.take place)) ∧
      (SetupHides descriptor → ∃ setup start, descriptor.scriptSetup = some setup ∧
        StandsAt code setup start ∧ setup.content = [] ∧
        ∀ location ∈ report.scriptLocations,
          location.line = 1 + Text.newlines (code.take start)) := by
  obtain ⟨analysis, extracted, validated⟩ := validate_split rules result
  have same := searched_is_primary_iff (extract_holds extracted)
  refine ⟨analysis.outline, _, extracted, validated, same, fun apart => ?_, fun hides => ?_⟩
  · have searched := same.mpr apart
    refine ⟨fun violation member named => ?_, fun violation member named => ?_,
      fun detection member named => ?_⟩
    · obtain ⟨prop, declared, found, first, quoted, placed⟩ := prop_mutation_found member named
      rw [searched] at first
      obtain ⟨place, own, line⟩ := match_on_line result (prop_assignment_fails _) first
      rw [quoted_value (prop_assignment_quotes _) first] at quoted
      exact ⟨prop, declared, place, _, own, quoted, placed ▸ line⟩
    · obtain ⟨found, first, quoted, placed⟩ := parent_access_found member named
      rw [searched] at first
      obtain ⟨place, own, line⟩ := match_on_line result parent_access_fails first
      rw [quoted_value parent_access_quotes first] at quoted
      exact ⟨place, _, own, quoted, placed ▸ line⟩
    · obtain ⟨found, first, placed⟩ := provide_inject_found member named
      rw [searched] at first
      obtain ⟨place, own, line⟩ := match_on_line result injection_fails first
      exact ⟨place, _, own, placed ▸ line⟩
  · obtain ⟨setup, script, present, empty, -⟩ := hides
    obtain ⟨start, stands⟩ := held_stands result
      (show setup ∈ descriptor.held .scriptSetup by simp [Descriptor.held, present])
    refine ⟨setup, start, present, stands, empty, fun location member => ?_⟩
    obtain ⟨index, rfl⟩ := script_located member
    simp [Descriptor.primaryScript, present, locate, Block.lineOf, empty, stands.offset,
      Text.newlines, Nat.add_comm]

def twoScripts : Text :=
  "<script>\n$parent\n</script>\n<script setup>\n\n$root\n</script>".toList

theorem two_scripts_on_line :
    ∃ report violation place, validate {} twoScripts "A.vue" = .ok report ∧
      violation ∈ report.violations ∧ violation.rule = "parent-access" ∧
      "$root".toList <+: twoScripts.drop place ∧
      violation.location.line = 1 + Text.newlines (twoScripts.take place) ∧
      violation.location.line = 6 := by
  have facts : ((split twoScripts "A.vue").toOption.map fun descriptor =>
        descriptor.scriptSetup.map (·.content)) = some (some "\n\n$root\n".toList) ∧
      ((validate {} twoScripts "A.vue").toOption.map fun report =>
        report.violations.map fun violation =>
          (violation.rule, violation.message, violation.location.line)) =
        some [("parent-access", "$rootへのアクセスを検出しました", 6)] := by
    decide +kernel
  obtain ⟨descriptor, accepted, written⟩ := Option.map_eq_some_iff.mp facts.1
  obtain ⟨report, given, listed⟩ := Option.map_eq_some_iff.mp facts.2
  obtain ⟨violation, single, same⟩ := List.map_eq_singleton_iff.mp listed
  simp only [Prod.mk.injEq] at same
  obtain ⟨named, message, line⟩ := same
  have apart : ¬ SetupHides descriptor := by
    rintro ⟨setup, script, present, empty, -⟩
    simp [present, empty] at written
  obtain ⟨outline, report', -, validated, -, onLines, -⟩ :=
    script_findings_on_lines (ok_of_to_option accepted) {}
  obtain rfl : report' = report := Except.ok.inj (validated.symm.trans (ok_of_to_option given))
  have member : violation ∈ report'.violations := by simp [single]
  obtain ⟨place, read, first, quoted, own⟩ := (onLines apart).2.1 violation member named
  have root : read = "$root".toList := by
    have texts := congrArg String.toList (quoted.symm.trans message)
    have parts : "$rootへのアクセスを検出しました".toList =
        "$root".toList ++ "へのアクセスを検出しました".toList := by decide +kernel
    rw [String.toList_append, String.toList_ofList, parts] at texts
    exact List.append_cancel_right texts
  obtain ⟨block, start, found, -, -, -, -, -, stands⟩ := first
  exact ⟨report', violation, place, validated, member, named, root ▸ stands, own, line⟩

def hiddenScript : Text := "<script setup></script>\n<script>\n$root\n</script>".toList

theorem empty_setup_misplaces :
    ∃ report violation, validate {} hiddenScript "A.vue" = .ok report ∧
      violation ∈ report.violations ∧ violation.rule = "parent-access" ∧
      violation.message = "$rootへのアクセスを検出しました" ∧
      ∀ place < hiddenScript.length, "$root".toList <+: hiddenScript.drop place →
        violation.location.line ≠ 1 + Text.newlines (hiddenScript.take place) := by
  have facts : ((validate {} hiddenScript "A.vue").toOption.map fun report =>
        report.violations.map fun violation =>
          (violation.rule, violation.message, violation.location.line)) =
        some [("parent-access", "$rootへのアクセスを検出しました", 1)] ∧
      ∀ place < hiddenScript.length, "$root".toList <+: hiddenScript.drop place →
        1 ≠ 1 + Text.newlines (hiddenScript.take place) := by
    decide +kernel
  obtain ⟨report, given, listed⟩ := Option.map_eq_some_iff.mp facts.1
  obtain ⟨violation, single, same⟩ := List.map_eq_singleton_iff.mp listed
  simp only [Prod.mk.injEq] at same
  obtain ⟨named, message, line⟩ := same
  refine ⟨report, violation, ok_of_to_option given, by simp [single], named, message, ?_⟩
  rw [line]
  exact facts.2

end Reports

end PatternInspector.Component
