import PatternInspector.Proofs.Component.Shelf
import PatternInspector.Proofs.Component.Template

/-!
Where the blocks of a component stand. Each step of the split takes the content of a block from the
text behind its position, so the contents are spans of the component that follow one another, and a
line counted from the start of a block is a line of the whole component.
-/
namespace PatternInspector.Component

open PatternInspector.Text (Reader)
open PatternInspector.Text.Reader

section Lines

variable {code : Text} {block : Block} {start : Nat}

structure StandsAt (code : Text) (block : Block) (start : Nat) : Prop where
  content : Text.slice code start (start + block.content.length) = block.content
  offset : block.lineOffset = Text.newlines (code.take start)

theorem take_within {index : Nat} (stands : StandsAt code block start)
    (inside : index ≤ block.content.length) :
    code.take (start + index) = code.take start ++ block.content.take index := by
  have content := stands.content
  rw [Text.slice, Nat.add_sub_cancel_left] at content
  rw [List.take_add, ← content, List.take_take, Nat.min_eq_left inside]

theorem line_of_standing (stands : StandsAt code block start) {index : Int}
    (inside : index ≤ block.content.length) :
    block.lineOf index = 1 + Text.newlines (code.take (start + index.toNat)) := by
  have reach : index.toNat ≤ block.content.length := by omega
  rw [take_within stands reach, Text.newlines_append, Block.lineOf, stands.offset, Nat.add_comm]

-- A position behind the content counts its lines only, which all lie in the component.
theorem line_of_bounded (stands : StandsAt code block start) (index : Int) :
    1 ≤ block.lineOf index ∧ block.lineOf index ≤ 1 + Text.newlines code := by
  have whole := line_of_standing stands (Int.le_refl _)
  have last := Text.newlines_take_le code (start + block.content.length)
  have part := Text.newlines_take_le block.content index.toNat
  simp only [Block.lineOf, Int.toNat_natCast, List.take_length] at whole ⊢
  omega

end Lines

section Pieces

instance : Advances openTag := by
  unfold openTag
  infer_instance

instance : Advances templateTag := by
  unfold templateTag
  infer_instance

theorem found_le {α : Type} {reader : Reader α} [advances : Advances reader] {text : Text}
    {found : Found α} (member : found ∈ findAll reader text) : found.start ≤ found.stop := by
  obtain ⟨_, _, _, _, _, _, stop⟩ := find_all_found advances.covers member
  omega

theorem balanced_found {depth : Nat} {tags : List (Found TemplateTag)} {inside stop : Nat}
    (closed : balanced depth tags = some (inside, stop)) :
    ∃ found ∈ tags, found.start = inside ∧ found.stop = stop := by
  induction tags generalizing depth with
  | nil => simp [balanced] at closed
  | cons first others ih =>
      have later : ∀ {depth}, balanced depth others = some (inside, stop) →
          ∃ found ∈ first :: others, found.start = inside ∧ found.stop = stop := by
        intro depth closed
        obtain ⟨found, member, place⟩ := ih closed
        exact ⟨found, List.mem_cons_of_mem first member, place⟩
      rw [balanced] at closed
      split at closed
      next => exact later closed
      next => exact later closed
      next =>
        split at closed
        next =>
          obtain ⟨rfl, rfl⟩ := Prod.mk.inj (Option.some.inj closed)
          exact ⟨first, List.mem_cons_self, rfl, rfl⟩
        next => exact later closed

theorem content_end_le {tag rest : Text} {inside stop : Nat}
    (ended : contentEnd? tag rest = some (inside, stop)) : inside ≤ stop := by
  unfold contentEnd? at ended
  split at ended
  next =>
    obtain ⟨found, member, rfl, rfl⟩ := balanced_found ended
    exact found_le member
  next =>
    obtain ⟨found, searched, same⟩ := Option.map_eq_some_iff.mp ended
    obtain ⟨rfl, rfl⟩ := Prod.mk.inj same
    obtain ⟨_, _, _, _, _, _, stop⟩ := search_found (covers_end_tag tag) searched
    omega

theorem piece_of_block_stands {text tag content : Text} {attributes : List Attribute}
    {inset length : Nat}
    (piece : pieceOf text = .ok (.block tag attributes inset content length)) :
    content <+: text.drop inset ∧ inset + content.length ≤ length := by
  unfold pieceOf at piece
  split at piece
  next =>
    split at piece
    next => cases piece
    next => cases piece
  next =>
    split at piece
    next => cases piece
    next opening after first =>
      dsimp only at piece
      split at piece
      next =>
        cases piece
        exact ⟨List.nil_prefix, Nat.le_refl _⟩
      next =>
        split at piece
        next => cases piece
        next inside stop ended =>
          cases piece
          have order := content_end_le ended
          have short := List.length_take_le inside after.rest
          rw [first_rest first]
          exact ⟨List.take_prefix inside after.rest, by omega⟩

theorem block_stands {code tag content : Text} {attributes : List Attribute}
    {position inset : Nat} (found : content <+: (code.drop position).drop inset) :
    StandsAt code ⟨String.ofList tag, content, attributes,
      Text.newlines (code.take (position + inset))⟩ (position + inset) := by
  refine ⟨?_, rfl⟩
  rw [Text.slice, Nat.add_sub_cancel_left, ← List.drop_drop]
  exact (List.prefix_iff_eq_take.mp found).symm

end Pieces

section Runs

variable {code : Text}

/-- Blocks with the places of their contents: every content is a span of the component that starts
at `least` or later, and each span ends before the next one starts. -/
structure Spans (code : Text) (least : Nat) (placed : List (Block × Nat)) : Prop where
  stands : ∀ span ∈ placed, StandsAt code span.1 span.2
  behind : ∀ span ∈ placed, least ≤ span.2
  ordered : placed.Pairwise fun one two => one.2 + one.1.content.length ≤ two.2

variable {least : Nat} {placed : List (Block × Nat)}

theorem spans_from {least' : Nat} (spans : Spans code least placed) (earlier : least' ≤ least) :
    Spans code least' placed :=
  ⟨spans.stands, fun span member => Nat.le_trans earlier (spans.behind span member), spans.ordered⟩

theorem spans_cons {block : Block} {start : Nat} (stands : StandsAt code block start)
    (spans : Spans code (start + block.content.length) placed) :
    Spans code start ((block, start) :: placed) := by
  refine ⟨List.forall_mem_cons.mpr ⟨stands, spans.stands⟩,
    List.forall_mem_cons.mpr ⟨Nat.le_refl _, fun span member => ?_⟩,
    List.pairwise_cons.mpr ⟨spans.behind, spans.ordered⟩⟩
  exact Nat.le_trans (Nat.le_add_right _ _) (spans.behind span member)

-- The characters still to be passed belong to the last piece, so later contents start behind them.
theorem split_from_spans {descriptor filled : Descriptor} {position skip : Nat} {text : Text}
    (here : code.drop position = text)
    (result : splitFrom code descriptor position skip text = .ok filled) :
    ∃ placed, Spans code (position + skip) placed ∧
      ∀ shelf, filled.held shelf = descriptor.held shelf ++ onShelf shelf (placed.map Prod.fst) := by
  induction text generalizing descriptor position skip with
  | nil =>
      obtain rfl := Except.ok.inj result
      exact ⟨[], ⟨by simp, by simp, .nil⟩, fun shelf => by simp [onShelf]⟩
  | cons c text ih =>
      have next : code.drop (position + 1) = text := by
        rw [← List.drop_drop, here, List.drop_one, List.tail_cons]
      have passed : ∀ {left}, skip ≤ left + 1 →
          splitFrom code descriptor (position + 1) left text = .ok filled →
          ∃ placed, Spans code (position + skip) placed ∧ ∀ shelf, filled.held shelf =
            descriptor.held shelf ++ onShelf shelf (placed.map Prod.fst) := by
        intro left reach result
        obtain ⟨placed, spans, held⟩ := ih next result
        exact ⟨placed, spans_from spans (by omega), held⟩
      cases skip with
      | succ left => exact passed (Nat.le_refl _) result
      | zero =>
          rw [splitFrom] at result
          split at result
          next =>
            split at result
            next => cases result
            next => exact passed (Nat.zero_le _) result
            next => exact passed (Nat.zero_le _) result
            next tag attributes inset content length piece =>
              obtain ⟨stands, inside⟩ := piece_of_block_stands piece
              dsimp only at result
              split at result
              next => cases result
              next extended assigned =>
                obtain ⟨placed, spans, held⟩ := ih next result
                have block := @block_stands code tag content attributes position inset
                  (here.symm ▸ stands)
                refine ⟨(_, position + inset) :: placed,
                  spans_from (spans_cons block (spans_from spans ?_)) (by omega), fun shelf => ?_⟩
                · dsimp only
                  omega
                · rw [held, (assign_held assigned).2, List.append_assoc]
                  exact congrArg (descriptor.held shelf ++ ·) (on_shelf_cons shelf _ _).symm
          next => exact passed (Nat.zero_le _) result

/-- The blocks of a component, shelf by shelf, are spans of its text in order. -/
theorem split_spans {filename : String} {descriptor : Descriptor}
    (result : split code filename = .ok descriptor) :
    ∃ placed, Spans code 0 placed ∧
      ∀ shelf, descriptor.held shelf = onShelf shelf (placed.map Prod.fst) := by
  obtain ⟨placed, spans, held⟩ := split_from_spans List.drop_zero result
  refine ⟨placed, spans, fun shelf => ?_⟩
  rw [held]
  cases shelf <;> rfl

variable {filename : String} {descriptor : Descriptor} {block : Block}

theorem held_stands (result : split code filename = .ok descriptor) {shelf : Shelf}
    (member : block ∈ descriptor.held shelf) : ∃ start, StandsAt code block start := by
  obtain ⟨placed, spans, held⟩ := split_spans result
  rw [held, onShelf] at member
  obtain ⟨span, present, rfl⟩ := List.mem_map.mp (List.mem_filter.mp member).1
  exact ⟨span.2, spans.stands span present⟩

theorem primary_held (present : descriptor.primaryScript = some block) :
    ∃ shelf, block ∈ descriptor.held shelf := by
  unfold Descriptor.primaryScript at present
  cases setup : descriptor.scriptSetup with
  | none =>
      rw [setup] at present
      exact ⟨.script, Option.mem_toList.mpr present⟩
  | some given =>
      rw [setup] at present
      exact ⟨.scriptSetup, Option.mem_toList.mpr (setup.trans present)⟩

end Runs

end PatternInspector.Component
