import PatternInspector.Proofs.Component.Directive
import PatternInspector.Proofs.Component.Origin

/-!
The checks of a template made of texts and start tags. Each check looks at one tag at a time, and
what it sees of a tag is seen in the tag's name or in one attribute by itself. The lines that it
reports are therefore those of certain tags, one line for each, and stay when the attributes of
every tag are written in another order.
-/
namespace PatternInspector.Component

open PatternInspector.Text (Reader Avoids beforeEnd isBlank newlines newlines_append)
open PatternInspector.Text.Reader

section Written

structure TagAttribute where
  name : Text
  value : Option Text
  plain : ∀ c ∈ name, isBlank c = false ∧ c ∉ ['=', '"', '\'', '<', '>']
  quotable : ∀ text ∈ value, ∀ c ∈ text, c ∉ ['"', '<', '>']
  named : name = [] → value = none

def TagAttribute.render (given : TagAttribute) : Text :=
  given.name ++ match given.value with
    | none => []
    | some value => '=' :: '"' :: (value ++ ['"'])

structure StartTag where
  name : Text
  attributes : List TagAttribute
  parts : ∀ c ∈ name, isTagPart c = true

def attributesText (attributes : List TagAttribute) : Text :=
  attributes.flatMap fun given => ' ' :: given.render

theorem attributes_cons (given : TagAttribute) (attributes : List TagAttribute) :
    attributesText (given :: attributes) = ' ' :: (given.render ++ attributesText attributes) := rfl

namespace StartTag

def inner (tag : StartTag) : Text := tag.name ++ attributesText tag.attributes

def render (tag : StartTag) : Text := '<' :: (tag.inner ++ ['>'])

end StartTag

inductive TemplatePart where
  | text (content : Text) (plain : ∀ c ∈ content, c ∉ ['<', '>'])
  | tag (tag : StartTag)

def TemplatePart.render : TemplatePart → Text
  | .text content _ => content
  | .tag given => given.render

def renderParts (parts : List TemplatePart) : Text := parts.flatMap TemplatePart.render

theorem attribute_plain (given : TagAttribute) : ∀ c ∈ given.render, c ∉ ['<', '>'] := by
  intro c member angle
  have angle' : c = '<' ∨ c = '>' := by simpa using angle
  rw [TagAttribute.render, List.mem_append] at member
  rcases member with member | member
  · exact (given.plain c member).2 (by rcases angle' with rfl | rfl <;> decide)
  · split at member
    next => exact absurd member List.not_mem_nil
    next value same =>
      have outside : c ≠ '=' ∧ c ≠ '"' := by rcases angle' with rfl | rfl <;> decide
      have inside : c ∈ value := by simpa [outside] using member
      exact given.quotable value same c inside (List.mem_cons_of_mem _ angle)

theorem inner_plain (tag : StartTag) : ∀ c ∈ tag.inner, c ∉ ['<', '>'] := by
  intro c member angle
  have angle' : c = '<' ∨ c = '>' := by simpa using angle
  rcases List.mem_append.mp member with member | member
  · have part := tag.parts c member
    rcases angle' with rfl | rfl
    · exact absurd part (by decide)
    · exact absurd part (by decide)
  · obtain ⟨given, -, inside⟩ := List.mem_flatMap.mp member
    rcases List.mem_cons.mp inside with rfl | inside
    · exact absurd angle (by decide)
    · exact attribute_plain given c inside angle

theorem inner_unclosed (tag : StartTag) : '>' ∉ tag.inner :=
  fun member => inner_plain tag '>' member (by decide)

end Written

section Mentions

variable {word : String}

namespace StartTag

/-- Whether a directive stands in the tag's name, behind its first character, or in an attribute. -/
def mentions (word : String) (tag : StartTag) : Bool :=
  match tag.name with
  | [] => false
  | c :: others => Component.mentions word (some c) others ||
      tag.attributes.any fun given => Component.mentions word (some ' ') given.render

def bindsKey (tag : StartTag) : Bool :=
  tag.attributes.any fun given => occurs keyBinding (' ' :: given.render)

end StartTag

theorem mentions_attributes (known : DirectiveName word) (before : Option Char) (front : Text)
    (attributes : List TagAttribute) :
    mentions word before (front ++ attributesText attributes) =
      (mentions word before front ||
        attributes.any fun given => mentions word (some ' ') given.render) := by
  induction attributes generalizing before front with
  | nil => simp [attributesText]
  | cons given attributes ih =>
      rw [attributes_cons, mentions_cut known, ih, List.any_cons]

theorem holds_inner (known : DirectiveName word) (tag : StartTag) :
    holds word tag.inner = tag.mentions word := by
  rw [StartTag.inner, StartTag.mentions]
  cases shape : tag.name with
  | nil => cases tag.attributes <;> rfl
  | cons c others =>
      have part : isTagPart c = true := tag.parts c (by simp [shape])
      rw [List.cons_append, holds, part, Bool.true_and, mentions_attributes known]

-- A name starts with neither a blank nor an assignment, so none follows the blanks before it.
theorem attributes_unassigned (attributes : List TagAttribute) :
    ¬ Assigns (attributesText attributes) := by
  induction attributes with
  | nil =>
      rintro ⟨gap, rest, split, -⟩
      simp [attributesText] at split
  | cons given attributes ih =>
      rintro ⟨gap, rest, split, blanks⟩
      rw [attributes_cons] at split
      cases gap with
      | nil => exact absurd (List.cons.inj split).1 (by decide)
      | cons c gap =>
          have behind := (List.cons.inj split).2
          obtain ⟨-, blanks⟩ := List.forall_mem_cons.mp blanks
          cases shape : given.name with
          | nil =>
              rw [TagAttribute.render, shape, given.named shape] at behind
              exact ih ⟨gap, rest, behind, blanks⟩
          | cons d others =>
              obtain ⟨dark, other⟩ := given.plain d (by simp [shape])
              rw [TagAttribute.render, shape] at behind
              cases gap with
              | nil => exact other ((List.cons.inj behind).1 ▸ List.mem_cons_self)
              | cons b gap =>
                  have blank := blanks b List.mem_cons_self
                  rw [← (List.cons.inj behind).1, dark] at blank
                  exact absurd blank (by decide)

theorem binds_key_attributes (front : Text) (attributes : List TagAttribute) :
    occurs keyBinding (front ++ attributesText attributes) =
      (occurs keyBinding front ||
        attributes.any fun given => occurs keyBinding (' ' :: given.render)) := by
  induction attributes generalizing front with
  | nil => simp [attributesText]
  | cons given attributes ih =>
      have unassigned := attributes_unassigned (given :: attributes)
      rw [attributes_cons] at unassigned ⊢
      rw [binds_key_cut (by decide) unassigned, ← List.cons_append, ih, List.any_cons]

theorem tag_part_dark {c : Char} (part : isTagPart c = true) : isBlank c = false := by
  rcases Bool.or_eq_true_iff.mp part with word | mark
  · exact Text.word_not_blank word
  · rw [beq_iff_eq.mp mark]
    decide

theorem binds_key_render (tag : StartTag) : occurs keyBinding tag.render = tag.bindsKey := by
  have split : tag.render = '<' :: tag.name ++ attributesText tag.attributes ++ ['>'] := by
    simp [StartTag.render, StartTag.inner]
  have unassigned : ¬ Assigns ['>'] := by
    rintro ⟨_ | ⟨c, gap⟩, rest, shape, -⟩
    · exact absurd (List.cons.inj shape).1 (by decide)
    · simp at shape
  have name : occurs keyBinding ('<' :: tag.name) = false := by
    refine Bool.eq_false_iff.mpr fun binds => ?_
    obtain ⟨c, member, blank⟩ := starts_blank binds
    rcases List.mem_cons.mp member with rfl | member
    · exact absurd blank (by decide)
    · exact absurd (tag_part_dark (tag.parts c member)) (by simp [blank])
  have closing : occurs keyBinding ['>'] = false := by decide
  rw [split, binds_key_cut (by decide) unassigned, binds_key_attributes, name, closing,
    Bool.false_or, Bool.or_false, StartTag.bindsKey]

end Mentions

section Scan

variable {α : Type} {reader : Reader α} {seen : Text → Bool} {value : Text → α}

/-- A reader that reads at the start of certain tags, gives a value of the tag and stays in it. -/
structure MarksTags (reader : Reader α) (seen : Text → Bool) (value : Text → α) : Prop where
  elsewhere : ∀ text, Avoids (· == '<') text → Fails reader text
  sees : ∀ position before inner more, '>' ∉ inner →
    (reader.first? ⟨position, before, '<' :: (inner ++ '>' :: more)⟩).isSome = seen inner
  stays : ∀ position before inner more way, '>' ∉ inner →
    reader.first? ⟨position, before, '<' :: (inner ++ '>' :: more)⟩ = some way →
    way.1 = value inner ∧ way.2.position ≤ position + (inner.length + 2)

theorem loop_with_condition_marks :
    MarksTags loopWithCondition (fun inner => holds "v-for" inner && holds "v-if" inner)
      fun _ => () where
  elsewhere _ := fails_loop_with_condition
  sees _ _ _ _ := loop_with_condition_seen
  stays _ _ _ _ _ _ first := ⟨rfl, Nat.le_succ_of_le (loop_with_condition_stop first)⟩

theorem loop_tag_marks :
    MarksTags loopTag (holds "v-for") fun inner => '<' :: (inner ++ ['>']) where
  elsewhere _ := fails_loop_tag
  sees _ _ _ _ := loop_tag_seen
  stays _ _ _ _ _ closing first := by
    obtain ⟨whole, stop⟩ := loop_tag_whole closing first
    exact ⟨whole, Nat.le_of_eq stop⟩

theorem quiet_unopened (marks : MarksTags reader seen value) {text : Text} (unopened : '<' ∉ text)
    (rest : Text) : Quiet reader text rest := by
  refine quiet_of_class marks.elsewhere (fun c member => beq_eq_false_iff_ne.mpr ?_) rest
  rintro rfl
  exact unopened member

/-- What is found in a tag: one match at its start, or nothing. -/
theorem search_all_tag (marks : MarksTags reader seen value) (tag : StartTag) (position : Nat)
    (before : Option Char) (more : Text) :
    ∃ own : List (Found α), searchAll reader position before 0 (tag.render ++ more) =
        own ++ searchAll reader (position + tag.render.length) (some '>') 0 more ∧
      ∀ keep : α → Bool, (own.filter fun found => keep found.value).map (·.start) =
        if seen tag.inner && keep (value tag.inner) then [position] else [] := by
  have closing := inner_unclosed tag
  have split : tag.render ++ more = '<' :: (tag.inner ++ '>' :: more) := by simp [StartTag.render]
  have unopened : '<' ∉ tag.inner ++ ['>'] := by
    simpa using fun member => inner_plain tag '<' member List.mem_cons_self
  have quiet := quiet_unopened marks unopened more
  have rest (skip : Nat) (covered : skip ≤ tag.inner.length + 1) :
      searchAll reader (position + 1) (some '<') skip (tag.inner ++ '>' :: more) =
        searchAll reader (position + tag.render.length) (some '>') 0 more := by
    have passed := search_all_rest quiet (by simpa using covered) (position + 1) (some '<')
    simpa [StartTag.render, Nat.add_assoc, Nat.add_comm] using passed
  have sees := marks.sees position before tag.inner more closing
  rw [split, searchAll]
  cases first : reader.first? ⟨position, before, '<' :: (tag.inner ++ '>' :: more)⟩ with
  | none =>
      rw [first] at sees
      refine ⟨[], rest 0 (Nat.zero_le _), fun keep => ?_⟩
      rw [← sees]
      rfl
  | some way =>
      obtain ⟨given, stop⟩ := marks.stays _ _ _ _ way closing first
      rw [first] at sees
      refine ⟨[⟨way.1, position, way.2.position⟩], ?_, fun keep => ?_⟩
      · rw [← rest (way.2.position - position - 1) (by omega)]
        rfl
      · rw [← sees, given]
        cases kept : keep (value tag.inner) <;> simp [kept]

def tagsFrom (line : Nat) : List TemplatePart → List (Nat × StartTag)
  | [] => []
  | .text content _ :: parts => tagsFrom (line + newlines content) parts
  | .tag given :: parts => (line, given) :: tagsFrom (line + newlines given.render) parts

def flaggedLines (flagged : StartTag → Bool) (line : Nat) (parts : List TemplatePart) : List Nat :=
  ((tagsFrom line parts).filter fun placed => flagged placed.2).map (·.1)

theorem flagged_tag (flagged : StartTag → Bool) (line : Nat) (given : StartTag)
    (parts : List TemplatePart) : flaggedLines flagged line (.tag given :: parts) =
      (if flagged given then [line] else []) ++
        flaggedLines flagged (line + newlines given.render) parts := by
  rw [flaggedLines, tagsFrom, List.filter_cons]
  split
  · rfl
  · rfl

theorem line_behind {block : Block} {front read rest : Text}
    (content : block.content = front ++ (read ++ rest)) :
    block.lineOf (front ++ read).length = block.lineOf front.length + newlines read := by
  have taken : block.content.take front.length = front := by simp [content]
  have taken' : block.content.take (front ++ read).length = front ++ read := by
    rw [content, ← List.append_assoc, List.take_left]
  simp only [Block.lineOf, Int.toNat_natCast]
  rw [taken, taken', newlines_append]
  omega

/-- The kept matches in a template are on the lines of the tags that are seen and kept. -/
theorem scan_lines (marks : MarksTags reader seen value) (keep : α → Bool) {block : Block}
    {front : Text} {parts : List TemplatePart} (before : Option Char)
    (content : block.content = front ++ renderParts parts) :
    ((searchAll reader front.length before 0 (renderParts parts)).filter
        fun found => keep found.value).map (fun found => block.lineOf found.start) =
      flaggedLines (fun tag => seen tag.inner && keep (value tag.inner))
        (block.lineOf front.length) parts := by
  induction parts generalizing front before with
  | nil => rfl
  | cons part parts ih =>
      have split : renderParts (part :: parts) = part.render ++ renderParts parts := rfl
      rw [split] at content ⊢
      have line := line_behind content
      rw [← List.append_assoc] at content
      have later (before : Option Char) := ih before content
      rw [line, List.length_append] at later
      cases part with
      | text given plain =>
          have unopened : '<' ∉ given := fun member => plain '<' member List.mem_cons_self
          rw [TemplatePart.render, search_all_quiet (quiet_unopened marks unopened _)]
          exact later _
      | tag given =>
          obtain ⟨own, found, kept⟩ :=
            search_all_tag marks given front.length before (renderParts parts)
          have here := congrArg (List.map fun start : Nat => block.lineOf start) (kept keep)
          rw [List.map_map, apply_ite (List.map _)] at here
          simp only [TemplatePart.render] at later ⊢
          rw [found, List.filter_append, List.map_append, later, flagged_tag]
          exact congrArg (· ++ _) here

end Scan

section Checks

variable {block : Block} {parts : List TemplatePart}

def linesOf (rule : String) (found : List Violation) : List Nat :=
  (found.filter (·.rule == rule)).map (·.location.line)

def StartTag.loopsConditionally (tag : StartTag) : Bool :=
  tag.mentions "v-for" && tag.mentions "v-if"

def StartTag.loopsUnkeyed (tag : StartTag) : Bool := tag.mentions "v-for" && !tag.bindsKey

theorem condition_check_lines (content : block.content = renderParts parts)
    (rules : AntiPatternRules) :
    (checkLoopConditions rules (some block)).map (·.location.line) =
      if rules.detectVIfVFor then
        flaggedLines StartTag.loopsConditionally (block.lineOffset + 1) parts
      else [] := by
  have lines := @scan_lines _ _ _ _ loop_with_condition_marks (fun _ => true) block [] parts none
    content
  have flags : (fun tag : StartTag => (holds "v-for" tag.inner && holds "v-if" tag.inner) && true) =
      StartTag.loopsConditionally := by
    funext tag
    rw [holds_inner loop_name, holds_inner condition_name, Bool.and_true]
    rfl
  rw [flags, List.filter_true] at lines
  rw [checkLoopConditions]
  split
  · simp only [Option.toList_some, List.flatMap_singleton, List.map_map, findAll, content]
    exact lines
  · rfl

theorem key_check_lines (content : block.content = renderParts parts) (rules : TemplateRules) :
    (checkLoopKeys rules (some block)).map (·.location.line) =
      if rules.enforceVForKey then
        flaggedLines StartTag.loopsUnkeyed (block.lineOffset + 1) parts
      else [] := by
  have lines := @scan_lines _ _ _ _ loop_tag_marks (fun tag => !occurs keyBinding tag) block []
    parts none content
  have flags : (fun tag : StartTag => holds "v-for" tag.inner &&
      !occurs keyBinding ('<' :: (tag.inner ++ ['>']))) = StartTag.loopsUnkeyed := by
    funext tag
    have keyed := binds_key_render tag
    rw [StartTag.render] at keyed
    rw [holds_inner loop_name, keyed]
    rfl
  rw [flags] at lines
  rw [checkLoopKeys]
  split
  · simp only [Option.toList_some, List.flatMap_singleton, List.map_map, findAll, content]
    exact lines
  · rfl

variable {rules : Rules} {descriptor : Descriptor}

theorem condition_lines (template : descriptor.template = some block)
    (content : block.content = renderParts parts) (analysis : Analysis) :
    linesOf "v-if-with-v-for" (violations rules descriptor analysis) =
      if rules.antiPatterns.enabled && rules.antiPatterns.detectVIfVFor then
        flaggedLines StartTag.loopsConditionally (block.lineOffset + 1) parts
      else [] := by
  have own : ("v-if-with-v-for", checkLoopConditions rules.antiPatterns descriptor.template) ∈
      antiPatternParts rules analysis.outline descriptor := by simp [antiPatternParts]
  rw [linesOf, anti_pattern_violations rules descriptor analysis own, template,
    apply_ite (List.map _), condition_check_lines content]
  cases rules.antiPatterns.enabled <;> simp

theorem key_lines (template : descriptor.template = some block)
    (content : block.content = renderParts parts) (analysis : Analysis) :
    linesOf "missing-v-for-key" (violations rules descriptor analysis) =
      if rules.template.enabled && rules.template.enforceVForKey then
        flaggedLines StartTag.loopsUnkeyed (block.lineOffset + 1) parts
      else [] := by
  rw [linesOf, loop_key_violations rules descriptor analysis, template, apply_ite (List.map _),
    key_check_lines content]
  cases rules.template.enabled <;> simp

end Checks

section Order

/-- The same text, or the same tag with its attributes in another order. -/
inductive Reordered : TemplatePart → TemplatePart → Prop
  | text (content : Text) (plain : ∀ c ∈ content, c ∉ ['<', '>']) :
      Reordered (.text content plain) (.text content plain)
  | tag {tag tag' : StartTag} (name : tag.name = tag'.name)
      (attributes : tag.attributes.Perm tag'.attributes) : Reordered (.tag tag) (.tag tag')

variable {tag tag' : StartTag}

theorem mentions_reordered (name : tag.name = tag'.name)
    (attributes : tag.attributes.Perm tag'.attributes) (word : String) :
    tag.mentions word = tag'.mentions word := by
  simp only [StartTag.mentions, name, attributes.any_eq]

theorem binds_key_reordered (attributes : tag.attributes.Perm tag'.attributes) :
    tag.bindsKey = tag'.bindsKey :=
  attributes.any_eq

theorem loops_conditionally_reordered (tag tag' : StartTag) (name : tag.name = tag'.name)
    (attributes : tag.attributes.Perm tag'.attributes) :
    tag.loopsConditionally = tag'.loopsConditionally := by
  simp only [StartTag.loopsConditionally, mentions_reordered name attributes]

theorem loops_unkeyed_reordered (tag tag' : StartTag) (name : tag.name = tag'.name)
    (attributes : tag.attributes.Perm tag'.attributes) :
    tag.loopsUnkeyed = tag'.loopsUnkeyed := by
  simp only [StartTag.loopsUnkeyed, mentions_reordered name attributes,
    binds_key_reordered attributes]

theorem newlines_reordered (name : tag.name = tag'.name)
    (attributes : tag.attributes.Perm tag'.attributes) :
    newlines tag.render = newlines tag'.render := by
  have written : (attributesText tag.attributes).Perm (attributesText tag'.attributes) :=
    attributes.flatMap_right _
  refine List.Perm.count_eq ?_ '\n'
  rw [StartTag.render, StartTag.render, StartTag.inner, StartTag.inner, name]
  exact ((written.append_left _).append_right _).cons '<'

theorem flagged_reordered {flagged : StartTag → Bool}
    (kept : ∀ tag tag' : StartTag, tag.name = tag'.name →
      tag.attributes.Perm tag'.attributes → flagged tag = flagged tag')
    {parts parts' : List TemplatePart} (reordered : List.Forall₂ Reordered parts parts')
    (line : Nat) : flaggedLines flagged line parts = flaggedLines flagged line parts' := by
  induction reordered generalizing line with
  | nil => rfl
  | cons part parts ih =>
      cases part with
      | text content plain => exact ih (line + newlines content)
      | tag name attributes =>
          rw [flagged_tag, flagged_tag, kept _ _ name attributes,
            newlines_reordered name attributes, ih]

/-- The loop checks report the lines of the tags that loop with a condition or without a key, one
for each, and the order of a tag's attributes does not matter. -/
theorem attribute_order_irrelevant (rules : Rules) {descriptor descriptor' : Descriptor}
    {block block' : Block} {parts parts' : List TemplatePart} (analysis analysis' : Analysis)
    (template : descriptor.template = some block) (template' : descriptor'.template = some block')
    (content : block.content = renderParts parts) (content' : block'.content = renderParts parts')
    (offset : block.lineOffset = block'.lineOffset)
    (reordered : List.Forall₂ Reordered parts parts') :
    (∀ rule ∈ ["v-if-with-v-for", "missing-v-for-key"],
      linesOf rule (violations rules descriptor analysis) =
        linesOf rule (violations rules descriptor' analysis')) ∧
    linesOf "v-if-with-v-for" (violations rules descriptor analysis) =
      (if rules.antiPatterns.enabled && rules.antiPatterns.detectVIfVFor then
        flaggedLines StartTag.loopsConditionally (block.lineOffset + 1) parts
      else []) ∧
    linesOf "missing-v-for-key" (violations rules descriptor analysis) =
      (if rules.template.enabled && rules.template.enforceVForKey then
        flaggedLines StartTag.loopsUnkeyed (block.lineOffset + 1) parts
      else []) := by
  have conditional := flagged_reordered loops_conditionally_reordered reordered
  have unkeyed := flagged_reordered loops_unkeyed_reordered reordered
  refine ⟨List.forall_mem_cons.mpr ⟨?_, List.forall_mem_singleton.mpr ?_⟩,
    condition_lines template content analysis, key_lines template content analysis⟩
  · rw [condition_lines template content, condition_lines template' content', offset, conditional]
  · rw [key_lines template content, key_lines template' content', offset, unkeyed]

def loopAttribute : TagAttribute where
  name := "v-for".toList
  value := some "x in xs".toList
  plain := Text.each_of_all (by decide)
  quotable := by rintro _ ⟨⟩; exact Text.each_of_all (by decide)
  named := by decide

def conditionAttribute : TagAttribute where
  name := "v-if".toList
  value := none
  plain := Text.each_of_all (by decide)
  quotable := by rintro _ ⟨⟩
  named := fun _ => rfl

def brokenAttribute : TagAttribute where
  name := "title".toList
  value := some "a\nb".toList
  plain := Text.each_of_all (by decide)
  quotable := by rintro _ ⟨⟩; exact Text.each_of_all (by decide)
  named := by decide

def keyAttribute : TagAttribute where
  name := ":key".toList
  value := some "x".toList
  plain := Text.each_of_all (by decide)
  quotable := by rintro _ ⟨⟩; exact Text.each_of_all (by decide)
  named := by decide

def itemTag (attributes : List TagAttribute) : StartTag := ⟨"li".toList, attributes, Text.each_of_all (by decide)⟩

def itemParts (first second : List TagAttribute) : List TemplatePart :=
  [.text "\n".toList (Text.each_of_all (by decide)), .tag (itemTag first), .tag (itemTag second),
    .tag (itemTag [loopAttribute])]

def itemBlock (first second : List TagAttribute) : Block :=
  ⟨"template", renderParts (itemParts first second), [], 0⟩

def itemComponent (first second : List TagAttribute) : Descriptor :=
  { filename := "Items.vue", template := some (itemBlock first second) }

theorem loops_reordered :
    let written := itemComponent [loopAttribute, brokenAttribute, conditionAttribute]
      [keyAttribute, loopAttribute]
    let rewritten := itemComponent [conditionAttribute, loopAttribute, brokenAttribute]
      [loopAttribute, keyAttribute]
    let found := violations {} written ⟨emptyOutline written, []⟩
    (∀ rule ∈ ["v-if-with-v-for", "missing-v-for-key"],
      linesOf rule found = linesOf rule (violations {} rewritten ⟨emptyOutline rewritten, []⟩)) ∧
    linesOf "v-if-with-v-for" found = [2] ∧ linesOf "missing-v-for-key" found = [2, 3] := by
  intro written rewritten found
  have first : [loopAttribute, brokenAttribute, conditionAttribute].Perm
      [conditionAttribute, loopAttribute, brokenAttribute] :=
    @List.perm_append_comm _ [loopAttribute, brokenAttribute] [conditionAttribute]
  have reordered : List.Forall₂ Reordered
      (itemParts [loopAttribute, brokenAttribute, conditionAttribute] [keyAttribute, loopAttribute])
      (itemParts [conditionAttribute, loopAttribute, brokenAttribute]
        [loopAttribute, keyAttribute]) :=
    .cons (.text _ _) (.cons (.tag rfl first) (.cons (.tag rfl (.swap _ _ _))
      (.cons (.tag rfl (.refl _)) .nil)))
  obtain ⟨same, conditional, unkeyed⟩ := @attribute_order_irrelevant {} written rewritten
    (itemBlock _ _) (itemBlock _ _) _ _ ⟨emptyOutline written, []⟩ ⟨emptyOutline rewritten, []⟩
    rfl rfl rfl rfl rfl reordered
  refine ⟨same, conditional.trans ?_, unkeyed.trans ?_⟩
  · decide +kernel
  · decide +kernel

end Order

end PatternInspector.Component
