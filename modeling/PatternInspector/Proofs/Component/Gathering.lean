import PatternInspector.Proofs.Component.Scan

/-!
What extraction keeps. Taking over scripts and options adds names to the outline and leaves the texts
of the blocks alone, so the outline of a component holds its blocks as they were split; the flags, the
version and the removal of repetitions come on top.
-/
namespace PatternInspector.Component

open PatternInspector.Literal (ScanFault Entry findClosing)

section Runs

variable {ε α β : Type}

/-- What a computation that gave a result has computed on the way. -/
theorem ok_of_bind {run : Except ε α} {next : α → Except ε β} {result : β}
    (given : run >>= next = .ok result) : ∃ value, run = .ok value ∧ next value = .ok result := by
  cases run with
  | error fault => cases given
  | ok value => exact ⟨value, rfl, given⟩

theorem ok_of_to_option {run : Except ε α} {value : α} (given : run.toOption = some value) :
    run = .ok value := by
  cases run with
  | error fault => cases given
  | ok found => exact congrArg Except.ok (Option.some.inj given)

theorem fold_kept {f : β → α → Except ε β} {kept : β → Prop}
    (each : ∀ state item next, f state item = .ok next → kept state → kept next)
    {items : List α} {state last : β} (run : items.foldlM f state = .ok last) (start : kept state) :
    kept last := by
  induction items generalizing state with
  | nil =>
      obtain rfl := Except.ok.inj run
      exact start
  | cons item items ih =>
      rw [List.foldlM_cons] at run
      obtain ⟨next, step, rest⟩ := ok_of_bind run
      exact ih rest (each state item next step start)

end Runs

section Texts

variable {descriptor : Descriptor} {outline next : Outline}

def contentOf (block : Option Block) : Text := (block.map (·.content)).getD []

structure HoldsTexts (descriptor : Descriptor) (outline : Outline) : Prop where
  setup : outline.isScriptSetup = descriptor.scriptSetup.isSome
  template : outline.template = descriptor.template.map (·.content)
  script : outline.script = descriptor.script.map (·.content)
  scriptSetup : outline.scriptSetup = descriptor.scriptSetup.map (·.content)

theorem empty_holds (descriptor : Descriptor) : HoldsTexts descriptor (emptyOutline descriptor) :=
  ⟨rfl, rfl, rfl, rfl⟩

theorem add_script_holds {content : Text} (added : addScript findClosing content outline = .ok next)
    (holds : HoldsTexts descriptor outline) : HoldsTexts descriptor next := by
  obtain ⟨props, -, added⟩ := ok_of_bind added
  obtain ⟨emits, -, added⟩ := ok_of_bind added
  obtain rfl := Except.ok.inj added
  exact ⟨holds.setup, holds.template, holds.script, holds.scriptSetup⟩

/-- The outline with other names in the lists that the options object fills. -/
def SameButOptions (outline next : Outline) : Prop :=
  ∃ mixins filters data methods computed watch props emits, next = { outline with
    mixins := mixins, filters := filters, data := data, methods := methods
    computed := computed, watch := watch, props := props, emits := emits }

theorem named_option {names : Except ScanFault (List String)} {set : List String → Outline}
    (added : (do return set (← names)) = Except.ok next)
    (each : ∀ given, SameButOptions outline (set given)) : SameButOptions outline next := by
  obtain ⟨given, -, same⟩ := ok_of_bind added
  obtain rfl := Except.ok.inj same
  exact each given

-- Every option but an unknown one changes a single list of names.
theorem add_option_same {entry : Entry} (added : addOption findClosing outline entry = .ok next) :
    SameButOptions outline next := by
  unfold addOption at added
  split at added
  case h_7 | h_8 =>
    split at added
    next => exact named_option added fun _ => ⟨_, _, _, _, _, _, _, _, rfl⟩
    next => exact Except.ok.inj added ▸ ⟨_, _, _, _, _, _, _, _, rfl⟩
  case h_9 => exact Except.ok.inj added ▸ ⟨_, _, _, _, _, _, _, _, rfl⟩
  all_goals exact named_option added fun _ => ⟨_, _, _, _, _, _, _, _, rfl⟩

theorem add_options_same {script : Text} (added : addOptions findClosing script outline = .ok next) :
    SameButOptions outline next := by
  have start : SameButOptions outline outline := ⟨_, _, _, _, _, _, _, _, rfl⟩
  unfold addOptions at added
  split at added
  next =>
    obtain rfl := Except.ok.inj added
    exact start
  next =>
    obtain ⟨entries, -, run⟩ := ok_of_bind added
    refine fold_kept (fun state _ next step same => ?_) run start
    obtain ⟨_, _, _, _, _, _, _, _, rfl⟩ := same
    obtain ⟨_, _, _, _, _, _, _, _, rfl⟩ := add_option_same step
    exact ⟨_, _, _, _, _, _, _, _, rfl⟩

end Texts

section Extraction

variable {descriptor : Descriptor} {outline : Outline}

def TakesOver (add : Text → Outline → Except ScanFault Outline) (outline next : Outline) :
    Option Block → Prop
  | none => next = outline
  | some block => add block.content outline = .ok next

def addPlain (content : Text) (outline : Outline) : Except ScanFault Outline :=
  addScript findClosing content outline >>= addOptions findClosing content

/-- The outline is what was gathered from the scripts, one after the other, with flags, version and no
repetitions. -/
theorem extract_steps (extracted : extract descriptor = .ok outline) :
    ∃ scanned gathered, TakesOver addPlain (emptyOutline descriptor) scanned descriptor.script ∧
      TakesOver (addScript findClosing) scanned gathered descriptor.scriptSetup ∧
      outline = withoutRepetitions
        (withVersion (contentOf descriptor.script) (contentOf descriptor.scriptSetup) gathered) := by
  unfold extract extractBy at extracted
  cases script : descriptor.script with
  | none =>
      rw [script] at extracted
      cases setup : descriptor.scriptSetup with
      | none =>
          rw [setup] at extracted
          exact ⟨_, _, rfl, rfl, (Except.ok.inj extracted).symm⟩
      | some block =>
          rw [setup] at extracted
          obtain ⟨gathered, added, extracted⟩ := ok_of_bind extracted
          exact ⟨_, gathered, rfl, added, (Except.ok.inj extracted).symm⟩
  | some plain =>
      rw [script] at extracted
      obtain ⟨listed, added, extracted⟩ := ok_of_bind extracted
      obtain ⟨scanned, merged, extracted⟩ := ok_of_bind extracted
      have taken : addPlain plain.content (emptyOutline descriptor) = .ok scanned := by
        rw [addPlain, added]
        exact merged
      cases setup : descriptor.scriptSetup with
      | none =>
          rw [setup] at extracted
          exact ⟨scanned, scanned, taken, rfl, (Except.ok.inj extracted).symm⟩
      | some block =>
          rw [setup] at extracted
          obtain ⟨gathered, added, extracted⟩ := ok_of_bind extracted
          exact ⟨scanned, gathered, taken, added, (Except.ok.inj extracted).symm⟩

theorem taken_holds {add : Text → Outline → Except ScanFault Outline} {next : Outline}
    (each : ∀ content, add content outline = .ok next → HoldsTexts descriptor outline →
      HoldsTexts descriptor next) {block : Option Block} (taken : TakesOver add outline next block)
    (holds : HoldsTexts descriptor outline) : HoldsTexts descriptor next := by
  cases block with
  | none =>
      obtain rfl : next = outline := taken
      exact holds
  | some block => exact each block.content taken holds

theorem add_plain_holds {content : Text} {next : Outline} (added : addPlain content outline = .ok next)
    (holds : HoldsTexts descriptor outline) : HoldsTexts descriptor next := by
  obtain ⟨listed, scanned, merged⟩ := ok_of_bind added
  obtain ⟨setup, template, script, scriptSetup⟩ := add_script_holds scanned holds
  obtain ⟨_, _, _, _, _, _, _, _, rfl⟩ := add_options_same merged
  exact ⟨setup, template, script, scriptSetup⟩

theorem extract_gathers (extracted : extract descriptor = .ok outline) :
    ∃ gathered, HoldsTexts descriptor gathered ∧ outline = withoutRepetitions
      (withVersion (contentOf descriptor.script) (contentOf descriptor.scriptSetup) gathered) := by
  obtain ⟨scanned, gathered, plain, setup, same⟩ := extract_steps extracted
  have holds := taken_holds (fun _ => add_plain_holds) plain (empty_holds descriptor)
  exact ⟨gathered, taken_holds (fun _ => add_script_holds) setup holds, same⟩

theorem extract_holds (extracted : extract descriptor = .ok outline) :
    HoldsTexts descriptor outline := by
  obtain ⟨gathered, ⟨setup, template, script, scriptSetup⟩, rfl⟩ := extract_gathers extracted
  exact ⟨setup, template, script, scriptSetup⟩

end Extraction

section Reports

variable {code : Text} {filename : String} {descriptor : Descriptor}

theorem validate_fault (rules : Rules) {fault : SplitFault}
    (result : split code filename = .error fault) :
    validate rules code filename = .ok (faultReport filename fault) := by
  rw [validate, validateBy, result]
  rfl

/-- A component whose blocks can be told apart has a report, which holds its outline. -/
theorem validate_split (rules : Rules) (result : split code filename = .ok descriptor) :
    ∃ analysis, extract descriptor = .ok analysis.outline ∧
      validate rules code filename = .ok {
        filename
        component := analysis.outline
        detections := detections rules descriptor analysis
        violations := violations rules descriptor analysis } := by
  obtain ⟨analysis, analyzed⟩ := analyze_succeeds descriptor
  obtain ⟨outline, extracted, rest⟩ := ok_of_bind analyzed
  obtain ⟨found, -, last⟩ := ok_of_bind rest
  obtain rfl := Except.ok.inj last
  refine ⟨⟨outline, found⟩, extracted, ?_⟩
  rw [validate, validateBy, result]
  dsimp only
  rw [analyzed]
  rfl

end Reports

end PatternInspector.Component
