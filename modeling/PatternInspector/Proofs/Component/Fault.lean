import PatternInspector.Proofs.Component.Cut

/-!
The fault that a split reports. Up to the piece at fault the component splits into the blocks found so
far, so what is reported is the first fault: a block whose place is taken, an opening that nothing
ends, or a comment that nothing ends, each on the line of its `<`.
-/
namespace PatternInspector.Component

open PatternInspector.Text (Reader Cursor)
open PatternInspector.Text.Reader

section Faults

def UniqueBlock.shelf : UniqueBlock → Shelf
  | template => .template
  | script => .script
  | scriptSetup => .scriptSetup

/-- No end of the element follows its opening. Among the tags of a template no more close than open,
up to any of them; any other element has no end tag at all. -/
def Unended (tag rest : Text) : Prop :=
  if tag = templateName then
    ∀ seen, seen <+: (findAll templateTag rest).map (·.value) →
      seen.count .closing ≤ seen.count .opening
  else Lacks (EndTag tag) rest

/-- The fault at the start of a text that stands behind the blocks of a descriptor. -/
def Faulty (descriptor : Descriptor) (text : Text) : SplitCause → Prop
  | .unterminatedComment =>
      commentStart <+: text ∧ ¬ commentEnd <:+: text.drop commentStart.length
  | .missingEndTag tag => ∃ found after, openTag.first? (Cursor.start text) = some (found, after) ∧
      found.selfClosing = false ∧ tag = String.ofList found.tag ∧ Unended found.tag after.rest
  | .duplicate which => descriptor.held which.shelf ≠ [] ∧
      ∃ tag inset length, ∃ second : Block, second.kind = String.ofList tag ∧
        pieceOf text = .ok (.block tag second.attributes inset second.content length) ∧
        second.shelf = which.shelf

end Faults

section Causes

theorem find_none {needle text : Text} (absent : Text.find? needle text = none) :
    ¬ needle <:+: text := by
  induction text with
  | nil =>
      intro inside
      simp [List.eq_nil_of_infix_nil inside, Text.find?] at absent
  | cons c text ih =>
      rw [Text.find?] at absent
      split at absent
      next => cases absent
      next elsewhere =>
        intro inside
        rcases List.infix_cons_iff.mp inside with starts | later
        · exact elsewhere (List.isPrefixOf_iff_prefix.mpr starts)
        · exact ih (Option.map_eq_none_iff.mp absent) later

theorem reads_spelled {tag name rest : Text} {before : Option Char}
    (spelled : spells tag name = true) : Reads (endTag.sameLetters tag) before name rest () := by
  induction tag generalizing name before with
  | nil =>
      cases name with
      | nil => exact reads_pure ()
      | cons c name => cases spelled
  | cons expected tag ih =>
      cases name with
      | nil => cases spelled
      | cons c name =>
          obtain ⟨same, others⟩ := Bool.and_eq_true_iff.mp spelled
          exact reads_bind (reads_char same) (ih others)

theorem reads_any_end_tag {tag read rest : Text} {before : Option Char} (form : EndTag tag read) :
    Reads (endTag tag) before read rest () := by
  obtain ⟨name, gap, rfl, spelled, white⟩ := form
  refine reads_bind (reads_word "</") (reads_bind (reads_spelled spelled) ?_)
  exact reads_bind (reads_blanks white (Text.avoids_cons (by decide) _)) (reads_single '>')

theorem balanced_none {depth : Nat} {tags : List (Found TemplateTag)} (inside : 1 ≤ depth)
    (unclosed : balanced depth tags = none) {seen : List TemplateTag}
    (starts : seen <+: tags.map (·.value)) : seen.count .closing < depth + seen.count .opening := by
  induction tags generalizing depth seen with
  | nil =>
      obtain rfl := List.prefix_nil.mp starts
      exact inside
  | cons first tags ih =>
      cases seen with
      | nil => exact inside
      | cons value seen =>
          obtain ⟨rfl, behind⟩ := List.cons_prefix_cons.mp starts
          rw [balanced] at unclosed
          split at unclosed
          next opening =>
            have tail := ih (by omega) unclosed behind
            simp only [opening, List.count_cons_self, List.count_cons_of_ne, ne_eq, reduceCtorEq,
              not_false_eq_true]
            omega
          next selfClosed =>
            simpa [selfClosed] using ih inside unclosed behind
          next closing =>
            split at unclosed
            next => cases unclosed
            next nested =>
              have tail := ih (by omega) unclosed behind
              simp only [closing, List.count_cons_self, List.count_cons_of_ne, ne_eq, reduceCtorEq,
                not_false_eq_true]
              omega

theorem content_unended {tag rest : Text} (unended : contentEnd? tag rest = none) :
    Unended tag rest := by
  unfold contentEnd? at unended
  unfold Unended
  split at unended
  next template =>
    rw [if_pos (show tag = templateName from beq_iff_eq.mp template)]
    intro seen starts
    have bound := balanced_none (Nat.le_refl 1) unended starts
    omega
  next other =>
    rw [if_neg fun same : tag = templateName => other (beq_iff_eq.mpr same)]
    rintro left inner right rfl form
    have refused := search_from_none (Option.map_eq_none_iff.mp (Option.map_eq_none_iff.mp unended))
    rw [reads_any_end_tag form] at refused
    cases refused

theorem assign_taken {descriptor : Descriptor} {block : Block} {which : UniqueBlock}
    (refused : assign descriptor block = .error which) :
    block.shelf = which.shelf ∧ descriptor.held which.shelf ≠ [] := by
  rw [assign_by_shelf] at refused
  cases own : block.shelf <;> simp only [own] at refused
  case template | script | scriptSetup =>
    split at refused
    next taken =>
      cases refused
      refine ⟨rfl, fun none => ?_⟩
      rw [Option.toList_eq_nil_iff.mp none] at taken
      cases taken
    next => cases refused
  case styles | customBlocks => cases refused

theorem taken_faulty {code text : Text} {descriptor : Descriptor} {position : Nat} {piece : Piece}
    {which : UniqueBlock} (read : pieceOf text = .ok piece)
    (refused : piece.taken code position descriptor = .error which) :
    Faulty descriptor text (.duplicate which) := by
  cases piece with
  | plain => cases refused
  | comment length => cases refused
  | block tag attributes inset content length =>
      obtain ⟨shelf, taken⟩ := assign_taken refused
      exact ⟨taken, tag, inset, length, _, rfl, read, shelf⟩

theorem piece_faulty {descriptor : Descriptor} {text : Text} {cause : SplitCause}
    (failed : pieceOf text = .error cause) : Faulty descriptor text cause := by
  have outcome := piece_of_outcome text
  rw [failed] at outcome
  cases outcome with
  | unterminated starts open' => exact ⟨List.isPrefixOf_iff_prefix.mp starts, find_none open'⟩
  | endless starts tagged opening unended =>
      exact ⟨_, _, tagged, opening, rfl, content_unended unended⟩

end Causes

section Runs

variable {code : Text}

-- The cut is behind everything that the run has passed when it comes to the fault, so each piece
-- before it is read from the cut text as well.
theorem split_from_fault {descriptor : Descriptor} {position skip : Nat} {text : Text}
    {fault : SplitFault} (failed : splitFrom code descriptor position skip text = .error fault) :
    ∃ front rest filled, text = front ++ '<' :: rest ∧ skip ≤ front.length ∧
      splitFrom (code.take (position + front.length)) descriptor position skip front = .ok filled ∧
      fault.line = Text.lineAt code (position + front.length) ∧
      Faulty filled ('<' :: rest) fault.cause := by
  induction text generalizing descriptor position skip with
  | nil => cases failed
  | cons c text ih =>
      -- One character further on, with the piece that starts here still read from the cut text.
      have onward : ∀ {extended left}, skip ≤ left + 1 →
          splitFrom code extended (position + 1) left text = .error fault →
          (∀ front rest, text = front ++ '<' :: rest → left ≤ front.length →
            splitFrom (code.take (position + 1 + front.length)) descriptor position skip
              (c :: front) = splitFrom (code.take (position + 1 + front.length)) extended
              (position + 1) left front) →
          ∃ front rest filled, c :: text = front ++ '<' :: rest ∧ skip ≤ front.length ∧
            splitFrom (code.take (position + front.length)) descriptor position skip front =
              .ok filled ∧
            fault.line = Text.lineAt code (position + front.length) ∧
            Faulty filled ('<' :: rest) fault.cause := by
        intro extended left reach failed same
        obtain ⟨front, rest, filled, rfl, passed, cut, line, faulty⟩ := ih failed
        have shift : position + (c :: front).length = position + 1 + front.length := by
          rw [List.length_cons]
          omega
        refine ⟨c :: front, rest, filled, rfl, ?_, ?_, ?_, faulty⟩
        · rw [List.length_cons]
          omega
        · rw [shift, same front rest rfl passed, cut]
        · rw [shift, line]
      cases skip with
      | succ left => exact onward (Nat.le_refl _) failed fun _ _ _ _ => rfl
      | zero =>
          by_cases marked : c = '<'
          · subst marked
            cases read : pieceOf ('<' :: text) with
            | error cause =>
                rw [split_from_error read] at failed
                cases failed
                exact ⟨[], text, descriptor, rfl, Nat.zero_le _, rfl, rfl, piece_faulty read⟩
            | ok piece =>
                rw [split_from_piece read] at failed
                split at failed
                next which refused =>
                  cases failed
                  exact ⟨[], text, descriptor, rfl, Nat.zero_le _, rfl, rfl, taken_faulty read refused⟩
                next extended taken =>
                  refine onward (Nat.zero_le _) failed fun front rest split passed => ?_
                  subst split
                  have size : piece.size ≤ ('<' :: front).length := by
                    rw [List.length_cons]
                    omega
                  rw [split_from_piece (@piece_kept ('<' :: front) ('<' :: rest) piece read size),
                    taken_cut read (by rw [List.length_cons] at size; omega), taken]
          · rw [split_from_text marked] at failed
            exact onward (Nat.zero_le _) failed fun front _ _ _ => split_from_text marked front

/-- The fault of a split is the first one, at its own place: the component up to the `<` of the faulty
piece splits, and what is wrong with the piece is what is reported. -/
theorem fault_located {filename : String} {fault : SplitFault}
    (failed : split code filename = .error fault) :
    ∃ position descriptor, code[position]? = some '<' ∧
      fault.line = 1 + Text.newlines (code.take position) ∧
      split (code.take position) filename = .ok descriptor ∧
      Faulty descriptor (code.drop position) fault.cause := by
  obtain ⟨front, rest, filled, whole, -, cut, line, faulty⟩ := split_from_fault failed
  rw [Nat.zero_add] at cut line
  have before : code.take front.length = front := by rw [whole, List.take_left]
  have behind : code.drop front.length = '<' :: rest := by rw [whole, List.drop_left]
  refine ⟨front.length, filled, ?_, ?_, ?_, behind ▸ faulty⟩
  · rw [← List.head?_drop, behind]
    rfl
  · rw [line, Text.lineAt, Nat.add_comm]
  · rw [split, before]
    rwa [before] at cut

def unclosedComponent : Text := "<style></style>\n<template><template></template>".toList

theorem unclosed_component_located :
    split unclosedComponent "A.vue" = .error ⟨.missingEndTag "template", 2⟩ ∧
      ∃ position descriptor, unclosedComponent[position]? = some '<' ∧
        2 = 1 + Text.newlines (unclosedComponent.take position) ∧
        split (unclosedComponent.take position) "A.vue" = .ok descriptor ∧
        Faulty descriptor (unclosedComponent.drop position) (.missingEndTag "template") := by
  have reported : (split unclosedComponent "A.vue").map (fun _ => ()) =
      .error ⟨.missingEndTag "template", 2⟩ := by decide +kernel
  cases failed : split unclosedComponent "A.vue" with
  | ok descriptor =>
      rw [failed] at reported
      cases reported
  | error fault =>
      rw [failed] at reported
      obtain rfl := Except.error.inj reported
      exact ⟨rfl, fault_located failed⟩

end Runs

end PatternInspector.Component
