import PatternInspector.Proofs.Component.Shelf
import PatternInspector.Proofs.Component.Template

/-!
Components as they are written: text, comments and blocks one after the other, with at most one block
for each single shelf. The main statement is that splitting a written component gives back its
blocks, each on its shelf and in the order in which they stand.
-/
namespace PatternInspector.Component

open PatternInspector.Text (Reader Avoids)
open PatternInspector.Text.Reader

section Written

inductive Body (tag : TagName) where
  | selfClosed
  | plain (content : Text) (other : tag.text ≠ templateName)
      (lacks : Lacks (EndTag tag.text) content)
  | template (forest : Forest) (named : tag.text = templateName)

namespace Body

variable {tag : TagName}

def isSelfClosed : Body tag → Bool
  | selfClosed => true
  | plain _ _ _ => false
  | template _ _ => false

def content : Body tag → Text
  | selfClosed => []
  | plain content _ _ => content
  | template forest _ => forest.render

def closing (body : Body tag) : Text := if body.isSelfClosed then [] else endTagOf tag.text

end Body

inductive WrittenPiece where
  | text (source : Text) (free : '<' ∉ source)
  | comment (body : Text) (free : Lacks (· = commentEnd) body)
  | block (opening : Opening) (body : Body opening.tag)

namespace WrittenPiece

def render : WrittenPiece → Text
  | text source _ => source
  | comment body _ => commentStart ++ (body ++ commentEnd)
  | block opening body => opening.render body.isSelfClosed ++ (body.content ++ body.closing)

/-- The block that a piece writes behind the text `before`. -/
def block? (before : Text) : WrittenPiece → Option Block
  | text _ _ => none
  | comment _ _ => none
  | block opening body => some
      { kind := String.ofList opening.tag.text
        content := body.content
        attributes := opening.attributes.map WrittenAttribute.toAttribute
        lineOffset := Text.newlines (before ++ opening.render body.isSelfClosed) }

end WrittenPiece

def blocksBehind (before : Text) : List WrittenPiece → List Block
  | [] => []
  | piece :: others => (piece.block? before).toList ++ blocksBehind (before ++ piece.render) others

structure Source where
  pieces : List WrittenPiece
  unique : ∀ shelf, shelf.isSingle = true → (onShelf shelf (blocksBehind [] pieces)).length ≤ 1

def Source.render (source : Source) : Text := source.pieces.flatMap WrittenPiece.render

def Source.blocks (source : Source) : List Block := blocksBehind [] source.pieces

end Written

section Pieces

variable {body : Text}

-- A `>` behind two dashes stands in the comment or ends it: the dashes of the end mark itself are
-- not followed by a `>` any earlier.
theorem find_comment_end (lacks : Lacks (· = commentEnd) body) (rest : Text) :
    Text.find? commentEnd (body ++ (commentEnd ++ rest)) = some body.length := by
  induction body with
  | nil => rfl
  | cons c body ih =>
      have elsewhere : commentEnd.isPrefixOf (c :: (body ++ (commentEnd ++ rest))) = false := by
        cases body with
        | nil => simp [commentEnd, List.isPrefixOf]
        | cons d body =>
            cases body with
            | nil => simp [commentEnd, List.isPrefixOf]
            | cons e body =>
                refine Bool.eq_false_iff.mpr fun starts => ?_
                obtain ⟨after, split⟩ := List.isPrefixOf_iff_prefix.mp starts
                simp only [commentEnd, List.cons_append] at split
                obtain ⟨rfl, rfl, rfl, _⟩ : '-' = c ∧ '-' = d ∧ '>' = e ∧ _ := by simpa using split
                exact lacks [] commentEnd body rfl rfl
      rw [List.cons_append, Text.find?, elsewhere, ih (lacks_tail lacks)]
      rfl

theorem piece_of_comment (lacks : Lacks (· = commentEnd) body) (rest : Text) :
    pieceOf (commentStart ++ (body ++ commentEnd) ++ rest) =
      .ok (.comment (commentStart ++ (body ++ commentEnd)).length) := by
  have starts : commentStart.isPrefixOf (commentStart ++ (body ++ commentEnd) ++ rest) = true := by
    simp [commentStart, List.isPrefixOf]
  have inner : (commentStart ++ (body ++ commentEnd) ++ rest).drop commentStart.length =
      body ++ (commentEnd ++ rest) := by simp
  rw [pieceOf, if_pos starts, inner, find_comment_end lacks]
  simp [Nat.add_assoc]

theorem content_end_body (tag : TagName) (body : Body tag) (opened : body.isSelfClosed = false)
    (rest : Text) :
    contentEnd? tag.text (body.content ++ body.closing ++ rest) =
      some (body.content.length, (body.content ++ body.closing).length) := by
  rw [List.length_append, List.append_assoc, Body.closing, opened, if_neg (by decide)]
  cases body with
  | selfClosed => cases opened
  | plain content other lacks =>
      have named : (tag.text == "template".toList) = false := beq_eq_false_iff_ne.mpr other
      simp only [contentEnd?, named, Body.content, search_end_tag tag lacks]
      rfl
  | template forest named =>
      rw [named]
      exact content_end_forest forest rest

theorem self_closed_empty {tag : TagName} (body : Body tag) (closed : body.isSelfClosed = true) :
    body.content = [] ∧ body.closing = [] := by
  cases body with
  | selfClosed => exact ⟨rfl, rfl⟩
  | plain content other lacks => cases closed
  | template forest named => cases closed

theorem piece_of_block (opening : Opening) (body : Body opening.tag) (rest : Text) :
    pieceOf ((WrittenPiece.block opening body).render ++ rest) =
      .ok (.block opening.tag.text (opening.attributes.map WrittenAttribute.toAttribute)
        (opening.render body.isSelfClosed).length body.content
        (WrittenPiece.block opening body).render.length) := by
  obtain ⟨raw, parsed, reads⟩ := reads_open_tag opening body.isSelfClosed
  have first := reads none (body.content ++ body.closing ++ rest) 0
  have other : commentStart.isPrefixOf ((WrittenPiece.block opening body).render ++ rest) = false := by
    have letter := Text.ne_of_class (tag_letters_read.1 _ opening.tag.starts).1 (d := '!') (by decide)
    simp [commentStart, WrittenPiece.render, Opening.render, TagName.text, List.isPrefixOf,
      letter.symm]
  have shape : (WrittenPiece.block opening body).render ++ rest =
      opening.render body.isSelfClosed ++ (body.content ++ body.closing ++ rest) := by
    simp [WrittenPiece.render]
  rw [pieceOf, other, if_neg (by decide), shape, Text.Cursor.start, first]
  simp only [parsed, Text.Cursor.behind, Nat.zero_add]
  cases opened : body.isSelfClosed with
  | true =>
      obtain ⟨content, closing⟩ := self_closed_empty body opened
      simp [WrittenPiece.render, opened, content, closing]
  | false =>
      rw [content_end_body opening.tag body opened rest]
      simp [WrittenPiece.render, opened]


end Pieces

section Steps

variable {code rest : Text} {descriptor : Descriptor} {position : Nat}

theorem split_skip (skipped : Text) :
    splitFrom code descriptor position skipped.length (skipped ++ rest) =
      splitFrom code descriptor (position + skipped.length) 0 rest := by
  induction skipped generalizing position with
  | nil => rfl
  | cons c skipped ih =>
      rw [List.length_cons, List.cons_append, splitFrom, ih, Nat.add_assoc, Nat.add_comm 1]

theorem split_text {source : Text} (free : '<' ∉ source) :
    splitFrom code descriptor position 0 (source ++ rest) =
      splitFrom code descriptor (position + source.length) 0 rest := by
  induction source generalizing position with
  | nil => rfl
  | cons c source ih =>
      simp only [List.mem_cons, not_or] at free
      have plain : (c == '<') = false := by simpa using Ne.symm free.1
      rw [List.cons_append, splitFrom]
      simp only [plain]
      rw [List.length_cons, Nat.add_comm source.length, ← Nat.add_assoc]
      exact ih free.2

theorem split_comment {body : Text} (free : Lacks (· = commentEnd) body) :
    splitFrom code descriptor position 0 (commentStart ++ (body ++ commentEnd) ++ rest) =
      splitFrom code descriptor (position + (commentStart ++ (body ++ commentEnd)).length) 0 rest := by
  obtain ⟨others, shape⟩ : ∃ others, commentStart ++ (body ++ commentEnd) = '<' :: others :=
    ⟨_, rfl⟩
  have piece := piece_of_comment free rest
  rw [shape, List.cons_append] at piece ⊢
  rw [splitFrom]
  simp only [beq_self_eq_true, if_true, piece, List.length_cons, Nat.add_sub_cancel]
  rw [split_skip, Nat.add_assoc, Nat.add_comm 1]

theorem split_block {before : Text} {opening : Opening} {body : Body opening.tag} {block : Block}
    {extended : Descriptor}
    (written : (WrittenPiece.block opening body).block? before = some block)
    (whole : code = before ++ ((WrittenPiece.block opening body).render ++ rest))
    (assigned : assign descriptor block = .ok extended) :
    splitFrom code descriptor before.length 0 ((WrittenPiece.block opening body).render ++ rest) =
      splitFrom code extended (before.length + (WrittenPiece.block opening body).render.length) 0
        rest := by
  have start : code.take (before.length + (opening.render body.isSelfClosed).length) =
      before ++ opening.render body.isSelfClosed := by
    rw [whole, WrittenPiece.render, ← List.length_append, List.append_assoc, ← List.append_assoc,
      List.take_left]
  obtain ⟨others, shape⟩ : ∃ others, (WrittenPiece.block opening body).render = '<' :: others :=
    ⟨_, rfl⟩
  have piece := piece_of_block opening body rest
  obtain rfl := Option.some.inj written
  rw [shape, List.cons_append] at piece ⊢
  rw [splitFrom]
  simp only [beq_self_eq_true, if_true, piece, start, assigned, List.length_cons, Nat.add_sub_cancel]
  rw [split_skip, Nat.add_assoc, Nat.add_comm 1]

end Steps

section Whole

variable {code before : Text} {descriptor : Descriptor}

-- `before` is the text of the pieces that have been passed: it fixes the position, and the lines that
-- count towards the next block.
theorem split_pieces (pieces : List WrittenPiece)
    (whole : code = before ++ pieces.flatMap WrittenPiece.render)
    (room : ∀ shelf, shelf.isSingle = true →
      (descriptor.held shelf ++ onShelf shelf (blocksBehind before pieces)).length ≤ 1) :
    ∃ filled, splitFrom code descriptor before.length 0 (pieces.flatMap WrittenPiece.render) =
        .ok filled ∧ filled.filename = descriptor.filename ∧
      ∀ shelf, filled.held shelf =
        descriptor.held shelf ++ onShelf shelf (blocksBehind before pieces) := by
  induction pieces generalizing before descriptor with
  | nil => exact ⟨descriptor, rfl, rfl, fun shelf => by simp [blocksBehind, onShelf]⟩
  | cons piece others ih =>
      rw [List.flatMap_cons] at whole ⊢
      have behind : code = (before ++ piece.render) ++ others.flatMap WrittenPiece.render := by
        rw [whole, List.append_assoc]
      have next := @ih (before ++ piece.render)
      rw [List.length_append] at next
      cases piece with
      | text source free =>
          rw [WrittenPiece.render, split_text free]
          exact next behind room
      | comment body free =>
          rw [WrittenPiece.render, split_comment free]
          exact next behind room
      | block opening body =>
          obtain ⟨block, written⟩ :
              ∃ block, (WrittenPiece.block opening body).block? before = some block := ⟨_, rfl⟩
          have blocks : ∀ shelf,
              onShelf shelf (blocksBehind before (WrittenPiece.block opening body :: others)) =
                onShelf shelf [block] ++ onShelf shelf
                  (blocksBehind (before ++ (WrittenPiece.block opening body).render) others) := by
            intro shelf
            rw [blocksBehind, written, Option.toList_some, List.singleton_append, on_shelf_cons]
          simp only [blocks] at room ⊢
          -- The block itself takes the one place of a single shelf, so the shelf was empty.
          have free : block.shelf.isSingle = true → descriptor.held block.shelf = [] := by
            intro single
            have most := room block.shelf single
            rw [on_shelf_single, if_pos rfl] at most
            simp only [List.length_append, List.length_singleton] at most
            exact List.eq_nil_of_length_eq_zero (by omega)
          obtain ⟨extended, assigned⟩ := assign_room free
          obtain ⟨named, held⟩ := assign_held assigned
          obtain ⟨filled, result, named', held'⟩ := next behind fun shelf single => by
            rw [held, List.append_assoc]
            exact room shelf single
          refine ⟨filled, ?_, named'.trans named, fun shelf => ?_⟩
          · rw [split_block written whole assigned, result]
          · rw [held', held, List.append_assoc]

/-- Splitting a written component gives its blocks, each on its shelf, in order. -/
theorem split_render (source : Source) (filename : String) :
    ∃ descriptor, split source.render filename = .ok descriptor ∧
      descriptor.filename = filename ∧
      ∀ shelf, descriptor.held shelf = onShelf shelf source.blocks := by
  have empty : ∀ shelf, ({ filename } : Descriptor).held shelf = [] := by
    intro shelf
    cases shelf <;> rfl
  obtain ⟨filled, result, named, held⟩ :=
    @split_pieces source.render [] { filename } source.pieces rfl fun shelf single => by
      rw [empty, List.nil_append]
      exact source.unique shelf single
  refine ⟨filled, result, named, fun shelf => ?_⟩
  rw [held, empty, List.nil_append, Source.blocks]

end Whole

end PatternInspector.Component
