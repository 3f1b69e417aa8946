import PatternInspector.Proofs.Component.Tag

/-!
The content of a template as it is written: text and nested templates, each of which closes itself
or is closed by an end tag of its own. The end of the content is found behind all nested templates.
-/
namespace PatternInspector.Component

open PatternInspector.Text (Reader Avoids)
open PatternInspector.Text.Reader

section Written

def templateName : Text := "template".toList

def TemplateStart (text : Text) : Prop :=
  text = '<' :: templateName ∨ text = '<' :: '/' :: templateName

/-- Text in which no template starts or ends. -/
structure InertText where
  text : Text
  inert : Lacks TemplateStart text

structure NestedAttributes where
  text : Text
  spaced : ∀ c, text.head? = some c → Text.isBlank c = true
  inside : '>' ∉ text

inductive Forest where
  | text (lead : InertText)
  | selfClosed (lead : InertText) (attributes : NestedAttributes) (others : Forest)
  | element (lead : InertText) (attributes : NestedAttributes)
      (unslashed : ¬ ['/'] <:+ attributes.text) (inner : Forest) (gap : Text)
      (white : ∀ c ∈ gap, Text.isBlank c = true) (others : Forest)

def nestedOpening (attributes : Text) (selfClosing : Bool) : Text :=
  '<' :: (templateName ++ (attributes ++ tagMark selfClosing))

def nestedClosing (gap : Text) : Text := '<' :: '/' :: (templateName ++ (gap ++ ['>']))

def Forest.render : Forest → Text
  | text lead => lead.text
  | selfClosed lead attributes others =>
      lead.text ++ (nestedOpening attributes.text true ++ others.render)
  | element lead attributes _ inner gap _ others =>
      lead.text ++ (nestedOpening attributes.text false ++
        (inner.render ++ (nestedClosing gap ++ others.render)))

end Written

section Tags

variable {before : Option Char} {rest : Text}

def templateEnd : Reader TemplateTag := do
  let slash ← Reader.optional (Reader.single '/')
  Reader.single '>'
  return if slash.isSome then .selfClosed else .opening

theorem reads_template_end (selfClosing : Bool) :
    Reads templateEnd before (tagMark selfClosing) rest
      (if selfClosing then .selfClosed else .opening) := by
  cases selfClosing with
  | true =>
      refine reads_bind (reads_optional_some (reads_single '/')) ?_
      exact reads_then_pure (reads_single '>') _
  | false =>
      change Reads templateEnd before ([] ++ ['>']) rest _
      refine reads_bind (reads_optional_none (fails_single (Text.avoids_cons (by decide) _))) ?_
      exact reads_then_pure (reads_single '>') _

theorem covers_template_end :
    Covers templateEnd fun passed _ => passed = ['/', '>'] ∨ passed = ['>'] := by
  refine covers_mono (covers_bind covers_slash fun _ =>
    covers_bind (covers_single '>') fun _ => covers_pure _) ?_
  rintro _ _ ⟨_, _, _, rfl, marked, _, _, _, rfl, rfl, rfl, _⟩
  rcases marked with rfl | rfl
  · exact Or.inl rfl
  · exact Or.inr rfl

-- Before the end of the attributes a `>` cannot stand, and a slash ends the tag only in front of one.
theorem fails_template_end {right : Text} {selfClosing : Bool} (nonempty : right ≠ [])
    (inside : '>' ∉ right) (unslashed : selfClosing = false → right ≠ ['/']) :
    Fails templateEnd (right ++ (tagMark selfClosing ++ rest)) := by
  obtain ⟨c, others, rfl⟩ := List.exists_cons_of_ne_nil nonempty
  refine fails_of_covers covers_template_end fun passed after _ split marked => ?_
  rcases marked with rfl | rfl
  · cases others with
    | nil => cases selfClosing <;> simp_all [tagMark]
    | cons d others => simp_all
  · simp_all

theorem reads_nested_opening (attributes : NestedAttributes) (selfClosing : Bool)
    (unslashed : selfClosing = false → ¬ ['/'] <:+ attributes.text) :
    Reads templateTag before (nestedOpening attributes.text selfClosing) rest
      (if selfClosing then .selfClosed else .opening) := by
  have word : Reads (word "<template") before ('<' :: templateName)
      (attributes.text ++ tagMark selfClosing ++ rest) () := reads_word "<template"
  have limited : ∀ d ∈ attributes.text, (d != '>') = true := fun d member => by
    simpa using fun same : d = '>' => attributes.inside (same ▸ member)
  have edge : ∀ text, (attributes.text ++ tagMark selfClosing ++ text).head?.any
      (fun c => Text.isBlank c || c == '>' || c == '/') = true := by
    intro text
    cases written : attributes.text with
    | nil => cases selfClosing <;> rfl
    | cons c others => simp [attributes.spaced c (by simp [written])]
  refine reads_or_left (reads_bind word ?_) _
  change Reads _ _ ([] ++ (attributes.text ++ tagMark selfClosing)) _ _
  refine reads_bind (reads_provided fun _ => edge rest) ?_
  refine skips_bind _ (skips_few limited) ?_ (reads_template_end selfClosing)
  rintro _ _ ⟨left, right, split, nonempty, rfl⟩
  refine fails_template_end nonempty (fun member => attributes.inside ?_) fun opened same => ?_
  · rw [split]
    exact List.mem_append_right _ member
  · exact unslashed opened ⟨left, by rw [split, same]⟩

theorem reads_nested_closing {gap : Text} (white : ∀ c ∈ gap, Text.isBlank c = true) :
    Reads templateTag before (nestedClosing gap) rest .closing := by
  have other : Fails (word "<template") (nestedClosing gap ++ rest) := by
    refine fails_of_covers (covers_chars _) fun passed after _ split same => ?_
    simp [same, nestedClosing] at split
  have name : Reads (word "</template") before ('<' :: '/' :: templateName)
      (gap ++ ['>'] ++ rest) () := reads_word "</template"
  have closing : Reads (do
      word "</template"
      blanks
      single '>'
      return TemplateTag.closing) before (('<' :: '/' :: templateName) ++ (gap ++ ['>'])) rest
      .closing := by
    refine reads_bind name ?_
    refine reads_bind (reads_blanks white (Text.avoids_cons (by decide) _)) ?_
    exact reads_then_pure (reads_single '>') _
  exact reads_or_right (fails_bind other _) closing

theorem covers_template_tag :
    Covers templateTag fun read _ => ∃ start tail, read = start ++ tail ∧ TemplateStart start := by
  have opening := covers_bind (covers_chars "<template".toList) fun _ =>
    covers_bind (covers_provided fun cursor =>
      cursor.rest.head?.any fun c => Text.isBlank c || c == '>' || c == '/') fun _ =>
    covers_bind (covers_few (· != '>')) fun _ => covers_template_end
  have closing := covers_bind (covers_chars "</template".toList) fun _ =>
    covers_bind (covers_many Text.isBlank) fun _ =>
    covers_bind (covers_single '>') fun _ => covers_pure TemplateTag.closing
  refine covers_mono (covers_or opening closing) ?_
  rintro read _ (⟨start, tail, _, split, same, _⟩ | ⟨start, tail, _, split, same, _⟩)
  · exact ⟨start, tail, split, Or.inl same⟩
  · exact ⟨start, tail, split, Or.inr same⟩

theorem template_start_inside {start : Text} (starts : TemplateStart start) :
    ∃ inner, start = '<' :: inner ∧ '<' ∉ inner := by
  rcases starts with rfl | rfl
  · exact ⟨_, rfl, by decide⟩
  · exact ⟨_, rfl, by decide⟩

theorem quiet_inert (lead : InertText) (marked : rest.head? = some '<') :
    Quiet templateTag lead.text rest := by
  obtain ⟨tail, rfl⟩ := List.head?_eq_some_iff.mp marked
  exact quiet_before_mark covers_template_tag (fun _ => template_start_inside) lead.inert tail

end Tags

section Balance

variable {rest : Text} {depth : Nat}

-- A depth of at least one is kept between the tags of the forest: it rises at an open tag, and the
-- end tag that brings it back is not the last one.
theorem balanced_forest (forest : Forest) (inside : 1 ≤ depth) (marked : rest.head? = some '<')
    (position : Nat) (before : Option Char) :
    balanced depth (searchAll templateTag position before 0 (forest.render ++ rest)) =
      balanced depth (searchAll templateTag (position + forest.render.length)
        (Text.beforeEnd before forest.render) 0 rest) := by
  induction forest generalizing depth position before rest with
  | text lead => rw [Forest.render, search_all_quiet (quiet_inert lead marked)]
  | selfClosed lead attributes others ih =>
      have tag : ∀ before, Reads templateTag before (nestedOpening attributes.text true)
          (others.render ++ rest) .selfClosed :=
        fun _ => reads_nested_opening attributes true (by simp)
      rw [Forest.render, List.append_assoc, List.append_assoc,
        search_all_quiet (quiet_inert lead rfl), search_all_here (tag _) (by simp [nestedOpening])]
      simp only [balanced]
      rw [ih inside marked]
      simp [Nat.add_assoc]
  | element lead attributes unslashed inner gap white others ih ih' =>
      have opening : ∀ before, Reads templateTag before (nestedOpening attributes.text false)
          (inner.render ++ (nestedClosing gap ++ (others.render ++ rest))) .opening :=
        fun _ => reads_nested_opening attributes false fun _ => unslashed
      have closing : ∀ before, Reads templateTag before (nestedClosing gap)
          (others.render ++ rest) .closing := fun _ => reads_nested_closing white
      have nested : ¬ depth + 1 ≤ 1 := by omega
      rw [Forest.render, List.append_assoc, List.append_assoc, List.append_assoc, List.append_assoc,
        search_all_quiet (quiet_inert lead rfl),
        search_all_here (opening _) (by simp [nestedOpening])]
      simp only [balanced]
      rw [ih (by omega) rfl, search_all_here (closing _) (by simp [nestedClosing])]
      simp only [balanced, if_neg nested, Nat.add_sub_cancel]
      rw [ih' inside marked]
      simp [Nat.add_assoc]

theorem content_end_forest (forest : Forest) (rest : Text) :
    contentEnd? templateName (forest.render ++ (endTagOf templateName ++ rest)) =
      some (forest.render.length, forest.render.length + (endTagOf templateName).length) := by
  have closing : ∀ before, Reads templateTag before (endTagOf templateName) rest .closing :=
    fun before => @reads_nested_closing before rest [] (by simp)
  have nonempty : endTagOf templateName ≠ [] := by simp [endTagOf]
  rw [contentEnd?, if_pos (by decide), findAll, balanced_forest forest (Nat.le_refl 1) rfl,
    search_all_here (closing _) nonempty]
  simp [balanced]

end Balance

end PatternInspector.Component
