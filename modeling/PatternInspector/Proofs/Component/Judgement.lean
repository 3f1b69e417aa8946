import PatternInspector.Proofs.Component.Declaration
import PatternInspector.Proofs.Finding.Evidence
import PatternInspector.Proofs.Literal.Nesting

/-!
What composables are judged by. The body of a function is the next group of braces behind its
parameters. A composable with a block is judged by that block, whatever follows it. One without
braces of its own is judged by the first group of the code behind it.
-/
namespace PatternInspector.Component

open PatternInspector.Literal (Closed findClosing)
open PatternInspector.Text (Reader)

section Bodies

/-- The group that opens at a position, or all from there on if it does not end. -/
def groupAt (text : Text) (start : Nat) : Text :=
  match findClosing text start with
  | .ok (some stop) => Text.slice text start (stop + 1)
  | _ => text.drop start

def braceGroup (text : Text) : Text :=
  match Text.find? ['\x7b'] text with
  | none => []
  | some start => groupAt text start

theorem find_brace_past {passed : Text} (plain : ∀ c ∈ passed, c ≠ '\x7b') (text : Text) :
    Text.find? ['\x7b'] (passed ++ text) = (Text.find? ['\x7b'] text).map (passed.length + ·) := by
  induction passed with
  | nil => simp
  | cons c passed ih =>
      have other : ['\x7b'].isPrefixOf (c :: (passed ++ text)) = false := by
        simp [List.isPrefixOf, Ne.symm (plain c List.mem_cons_self)]
      rw [List.cons_append, Text.find?, other, if_neg (by simp),
        ih fun d member => plain d (List.mem_cons_of_mem c member), Option.map_map]
      refine congrArg (Option.map · _) (funext fun start => ?_)
      simp only [Function.comp, List.length_cons]
      omega

theorem brace_at {text : Text} {start : Nat} (found : Text.find? ['\x7b'] text = some start) :
    ∃ rest, text.drop start = '\x7b' :: rest := by
  obtain ⟨rest, split⟩ := Text.find_sound found
  exact ⟨rest, split.symm⟩

theorem slice_shift (front text : Text) (start stop : Nat) :
    Text.slice (front ++ text) (front.length + start) (front.length + stop) =
      Text.slice text start stop := by
  rw [Text.slice, ← List.drop_drop, List.drop_left, Nat.add_sub_add_left, Text.slice]

theorem group_at_shift {text rest : Text} {start : Nat} (behind : text.drop start = '\x7b' :: rest)
    (front : Text) : groupAt (front ++ text) (front.length + start) = groupAt text start := by
  obtain ⟨close, own, moved⟩ := Literal.find_closing_shift behind rfl front
  unfold groupAt
  rw [own, moved]
  cases close with
  | none =>
      change (front ++ text).drop (front.length + start) = text.drop start
      rw [← List.drop_drop, List.drop_left]
  | some stop => exact slice_shift front text start (stop + 1)

theorem brace_group_past {passed : Text} (plain : ∀ c ∈ passed, c ≠ '\x7b') (text : Text) :
    braceGroup (passed ++ text) = braceGroup text := by
  unfold braceGroup
  rw [find_brace_past plain]
  cases found : Text.find? ['\x7b'] text with
  | none => rfl
  | some start =>
      obtain ⟨rest, behind⟩ := brace_at found
      exact group_at_shift behind passed

theorem brace_group_none {text : Text} (plain : ∀ c ∈ text, c ≠ '\x7b') : braceGroup text = [] := by
  rw [← List.append_nil text, brace_group_past plain]
  rfl

theorem brace_group_here {inner : Text} (closed : Closed false (fun _ => false) '\x7b' inner)
    (after : Text) :
    braceGroup ('\x7b' :: (inner ++ '\x7d' :: after)) = '\x7b' :: (inner ++ ['\x7d']) := by
  have behind : ('\x7b' :: (inner ++ '\x7d' :: after)).drop 0 =
      '\x7b' :: (inner ++ '\x7d' :: after) := rfl
  have found := Literal.find_closing_behind behind rfl (by simp) closed (by simp [Literal.closes])
  have brace : Text.find? ['\x7b'] ('\x7b' :: (inner ++ '\x7d' :: after)) = some 0 := by
    simp [Text.find?, List.isPrefixOf]
  simp only [braceGroup, groupAt, brace, found]
  have shape : '\x7b' :: (inner ++ '\x7d' :: after) = '\x7b' :: (inner ++ ['\x7d']) ++ after := by
    simp
  have size : 0 + 1 + inner.length + 1 - 0 = ('\x7b' :: (inner ++ ['\x7d'])).length := by
    simp only [List.length_cons, List.length_append, List.length_nil]
    omega
  rw [Text.slice, List.drop_zero, size, shape, List.take_left]

/-- Parameters in closed parentheses are the ones found, and the body is the next group of braces. -/
theorem function_parts_behind (front : Text) {inner : Text}
    (closed : Closed false (fun _ => false) '(' inner) (after : Text) :
    functionParts findClosing (front ++ ('(' :: (inner ++ [')']) ++ after)) front.length =
      .ok ('(' :: (inner ++ [')']), braceGroup after) := by
  generalize group : '(' :: (inner ++ [')']) = parameters
  have size : front.length + 1 + inner.length + 1 = front.length + parameters.length := by
    rw [← group]
    simp only [List.length_cons, List.length_append, List.length_nil]
    omega
  have behind : (front ++ (parameters ++ after)).drop front.length =
      '(' :: (inner ++ ')' :: after) := by
    rw [List.drop_left, ← group]
    simp
  have found := Literal.find_closing_behind behind rfl (by simp) closed (by simp [Literal.closes])
  have tail : (front ++ (parameters ++ after)).drop (front.length + 1 + inner.length) =
      [')'] ++ after := by
    rw [Nat.add_assoc, ← List.drop_drop, behind, Nat.add_comm 1, List.drop_succ_cons, List.drop_left]
    rfl
  have cut : Text.slice (front ++ (parameters ++ after)) front.length
      (front.length + 1 + inner.length + 1) = parameters := by
    rw [Text.slice, size, List.drop_left, Nat.add_sub_cancel_left, List.take_left]
  rw [functionParts, found]
  change (match Text.find? ['\x7b'] ((front ++ (parameters ++ after)).drop _) with
    | none => _
    | some _ => _) = _
  rw [tail, cut, find_brace_past (by simp), braceGroup]
  cases brace : Text.find? ['\x7b'] after with
  | none => rfl
  | some start =>
      obtain ⟨rest, behind⟩ := brace_at brace
      obtain ⟨close, -, moved⟩ := Literal.find_closing_shift behind rfl (front ++ parameters)
      have place : front.length + 1 + inner.length + ([')'].length + start) =
          (front ++ parameters).length + start := by
        rw [List.length_append, ← size, List.length_singleton]
        omega
      simp only [Option.map_some]
      rw [place, ← List.append_assoc, ← group_at_shift behind (front ++ parameters), groupAt, moved]
      cases close <;> rfl

end Bodies

section Judgements

/-- What a detection says about a composable, its name and place apart. -/
structure Judgement where
  confidence : Confidence
  evidence : List String
  antipatterns : List String
  suggestions : List String
  deriving DecidableEq

def Detection.judgement (detection : Detection) : Judgement where
  confidence := detection.confidence
  evidence := detection.evidence
  antipatterns := detection.antipatterns
  suggestions := detection.suggestions

def ReportedFirst (rules : ComposableRules) (outline : Outline) (block : Block) (name : Text)
    (judgement : Judgement) : Prop :=
  ∃ found detection others, definitionsBy findClosing block.content = .ok found ∧
    detectComposables rules outline (some block) found = detection :: others ∧
    detection.pattern = "composable" ∧ detection.componentName = String.ofList name ∧
    detection.location = locate (some block) 0 .script ∧ detection.judgement = judgement

def judgementOf (rules : ComposableRules) (name : ComposableName) (parameters body : Text) :
    Judgement where
  confidence := .high
  evidence :=
    ["composable関数: " ++ String.ofList name.text, "命名規則（useプレフィックス）に従っている"] ++
    noteIf (Reader.occurs reactiveReturn body) "リアクティブな値（ref/reactive/computed）を返す" ++
    noteIf (Reader.matchesStart optionsParameter parameters) "オプションオブジェクトで設定を受け取る" ++
    noteIf (Reader.occurs flexibleArguments body) "柔軟な引数（ref/unref）を受け付ける" ++
    noteIf (Reader.occurs lifecycleHook body) "ライフサイクルフック（onMounted等）を使用"
  antipatterns := []
  suggestions := noteIf (!Reader.occurs reactiveReturn body && rules.enforceReturnReactive)
    "リアクティブな値を返すことを検討してください"

theorem composable_named (name : ComposableName) : isComposableName name.text = true := by
  have read : Text.Reader.Reads (do Reader.word "use"; let _ ← Reader.char Text.isUpperLetter) none
      ("use".toList ++ [name.capital]) name.more () :=
    Text.Reader.reads_bind (Text.Reader.reads_word "use")
      (Text.Reader.reads_then_pure (Text.Reader.reads_char name.upper) fun _ => ())
  exact congrArg Option.isSome (read 0)

theorem definition_judged (rules : ComposableRules) (block : Block) (name : ComposableName)
    (start : Nat) (exported : Bool) (parameters body : Text) :
    (definitionDetection rules block ⟨start, name.text, exported, parameters, body⟩).judgement =
      judgementOf rules name parameters body := by
  simp only [definitionDetection, composable_named]
  rfl

theorem run_cons {α β ε : Type} {f : α → Except ε β} {item : α} {items : List α} {value : β}
    {results : List β} (run : (item :: items).mapM f = .ok results) (first : f item = .ok value) :
    ∃ others, results = value :: others := by
  rw [List.mapM_cons, first] at run
  change (items.mapM f >>= fun others => pure (value :: others)) = _ at run
  cases rest : items.mapM f with
  | error fault =>
      rw [rest] at run
      cases run
  | ok others =>
      rw [rest] at run
      exact ⟨others, (Except.ok.inj run).symm⟩

theorem definitions_cons {content : Text} {head : Text.Reader.Found DefinitionHead}
    {heads : List (Text.Reader.Found DefinitionHead)} {parameters body : Text}
    (found : definitionHeads content = head :: heads)
    (parts : functionParts findClosing content (head.stop - 1) = .ok (parameters, body)) :
    ∃ others, definitionsBy findClosing content =
      .ok (⟨head.start, head.value.name, head.value.exported, parameters, body⟩ :: others) := by
  obtain ⟨definitions, -, succeeds, -⟩ := definitions_follow content
  rw [succeeds]
  rw [definitionsBy, found] at succeeds
  obtain ⟨others, rest⟩ := run_cons succeeds (congrArg (· >>= _) parts)
  exact ⟨others, congrArg Except.ok rest⟩

variable (composable : Composable) (after : Text)

def Composable.found : Definition where
  start := 0
  name := composable.name.text
  exported := composable.form.exported
  parameters := composable.parameters
  body := braceGroup (composable.ending.text ++ after)

theorem first_definition :
    ∃ others, definitionsBy findClosing (composable.text ++ after) =
      .ok (composable.found after :: others) := by
  have content : composable.text ++ after = composable.form.render composable.name ++
      (composable.parameters ++ (composable.ending.text ++ after)) := by
    simp only [Composable.text, List.append_assoc]
  have parts := function_parts_behind (composable.form.render composable.name) composable.closed
    (composable.ending.text ++ after)
  obtain ⟨heads, first⟩ := first_head composable.form composable.name
    (composable.inner ++ [')'] ++ (composable.ending.text ++ after))
  rw [List.append_assoc] at first
  rw [content]
  refine definitions_cons first ?_
  dsimp only
  rw [List.length_append, List.length_singleton, Nat.add_sub_cancel]
  exact parts

theorem first_detection (rules : ComposableRules) (outline : Outline) (block : Block)
    (definitions : List Definition) :
    ∃ others, detectComposables rules outline (some block)
      (composable.found after :: definitions) =
        definitionDetection rules block (composable.found after) :: others := by
  have kept : isComposable rules (composable.found after) = true := by
    rw [isComposable, Composable.found, composable_named, Bool.true_or]
  rw [detectComposables, List.filter_cons_of_pos kept, List.map_cons, List.cons_append]
  exact ⟨_, rfl⟩

theorem composable_reported (rules : ComposableRules) (outline : Outline) {block : Block}
    (content : block.content = composable.text ++ after) :
    ReportedFirst rules outline block composable.name.text
      (judgementOf rules composable.name composable.parameters
        (braceGroup (composable.ending.text ++ after))) := by
  obtain ⟨definitions, found⟩ := first_definition composable after
  obtain ⟨others, detected⟩ := first_detection composable after rules outline block definitions
  rw [← content] at found
  exact ⟨_, _, others, found, detected, rfl, rfl, rfl, definition_judged rules block _ 0 _ _ _⟩

def telling (body : Text) : Bool :=
  Reader.occurs reactiveReturn body || Reader.occurs flexibleArguments body ||
    Reader.occurs lifecycleHook body

theorem judgement_untold (rules : ComposableRules) (name : ComposableName) (parameters body : Text) :
    judgementOf rules name parameters body = judgementOf rules name parameters [] ↔
      telling body = false := by
  have none : telling [] = false := by decide
  simp only [telling, Bool.or_eq_false_iff] at none ⊢
  obtain ⟨⟨reactive, flexible⟩, hook⟩ := none
  constructor
  · intro same
    have size := congrArg (fun judgement => judgement.evidence.length) same
    simp only [judgementOf, reactive, flexible, hook, List.length_append, length_note_if] at size
    refine ⟨⟨?_, ?_⟩, ?_⟩ <;> exact Bool.toNat_eq_zero.mp (by rw [Bool.toNat_false] at size; omega)
  · rintro ⟨⟨reactive', flexible'⟩, hook'⟩
    simp only [judgementOf, reactive, flexible, hook, reactive', flexible', hook']

end Judgements

/-- A composable is judged by the next group of braces behind its parameters. That is its own block
if it has one, and then nothing that follows counts. An arrow function with an expression for its body
is judged by the first group of the code that follows it, and as it would be alone only if that group
has nothing to tell. -/
theorem composable_judged_by_next_braces (composable : Composable) (following : Text)
    (rules : ComposableRules) (outline outline' : Outline) (block block' : Block) :
    ∃ own joined,
      ReportedFirst rules outline { block with content := composable.text } composable.name.text own ∧
      ReportedFirst rules outline' { block' with content := composable.text ++ '\n' :: following }
        composable.name.text joined ∧
      (joined = own ↔
        composable.ending.hasBlock = true ∨ telling (braceGroup following) = false) := by
  refine ⟨_, _, composable_reported composable [] rules outline (List.append_nil _).symm,
    composable_reported composable _ rules outline' rfl, ?_⟩
  rw [List.append_nil]
  cases composable.ending with
  | block between inner plain closed =>
      rw [Ending.text, List.append_assoc, brace_group_past plain, brace_group_past plain]
      simp only [List.cons_append, List.append_assoc, List.nil_append, brace_group_here closed]
      simp [Ending.hasBlock]
  | expression text plain =>
      have passed : ∀ c ∈ text ++ ['\n'], c ≠ '\x7b' := by
        intro c member
        rcases List.mem_append.mp member with own | last
        · exact plain c own
        · exact List.mem_singleton.mp last ▸ (by decide)
      have behind : text ++ '\n' :: following = text ++ ['\n'] ++ following := by simp
      rw [Ending.text, behind, brace_group_past passed, brace_group_none plain, judgement_untold]
      simp [Ending.hasBlock]

def echo : Composable where
  form := .arrow none ⟨' ', [], Text.each_of_all (by decide)⟩
    ⟨[' '], Text.each_of_all (by decide)⟩ ⟨[' '], Text.each_of_all (by decide)⟩ none
  name := ⟨'A', [], by decide, by simp⟩
  inner := ['a']
  closed := .plain rfl rfl rfl rfl rfl .nil
  ending := .expression " => a".toList (Text.each_of_all (by decide))

example : echo.text = "const useA = (a) => a".toList := by decide

/-- The hook that another function calls is counted as one of an arrow function before it. -/
theorem neighbour_hook_counted :
    ¬ ∀ (composable : Composable) (following : Text) (rules : ComposableRules) (outline : Outline)
      (block : Block) (own joined : Judgement),
      ReportedFirst rules outline { block with content := composable.text } composable.name.text own →
      ReportedFirst rules outline { block with content := composable.text ++ '\n' :: following }
        composable.name.text joined → joined = own := by
  intro alone
  have same := alone echo "function f() \x7b onMounted() \x7d".toList {} { name := "A" }
    ⟨"script", [], [], 0⟩ _ _ (composable_reported echo [] {} _ (List.append_nil _).symm)
    (composable_reported echo _ {} _ rfl)
  revert same
  decide +kernel

end PatternInspector.Component
