import PatternInspector.Proofs.Java.Word

/-!
Type expressions as they are written, and how the grammar reads what stands around the names in them:
annotations before a type, dimensions behind it, and the keywords that are types themselves.
-/
namespace PatternInspector.Java

open PatternInspector.Syntax (Node)
open PatternInspector.Syntax.Parser
open PatternInspector.Text (Avoids avoids_cons each_of_all)

section Texts

def BoundKind.keyword : BoundKind → String
  | .extends => "extends"
  | .super => "super"

def marksText (marks : List Mark) : Text := marks.flatMap fun mark => mark.text ++ [' ']

def dimensionsText (dimensions : List (List Mark)) : Text :=
  dimensions.flatMap fun marks => marksText marks ++ ['[', ']']

mutual

/-- A type as it is written with these annotations before it and these dimensions behind it. -/
def TypeExpression.textWith : TypeExpression → List Mark → List (List Mark) → Text
  | .basic type, marks, dimensions =>
      marksText marks ++ (type.keyword.toList ++ dimensionsText dimensions)
  | .named type, marks, dimensions => marksText marks ++ (type.text ++ dimensionsText dimensions)
  | .array element own, marks, dimensions => element.textWith marks (own :: dimensions)
  | .annotated mark type, marks, dimensions => type.textWith (marks ++ [mark]) dimensions

def ClassType.text : ClassType → Text
  | .simple name arguments => name.text ++ appliedText arguments
  | .member outer marks name arguments =>
      outer.text ++ '.' :: (marksText marks ++ name.text) ++ appliedText arguments

def appliedText : Option (List Argument) → Text
  | none => []
  | some [] => ['<', '>']
  | some (argument :: rest) => '<' :: (argument.text ++ furtherText rest) ++ ['>']

def furtherText : List Argument → Text
  | [] => []
  | argument :: rest => ',' :: argument.text ++ furtherText rest

def Argument.text : Argument → Text
  | .exact type => type.textWith [] []
  | .wildcard marks => marksText marks ++ ['?']
  | .bounded marks kind bound =>
      marksText marks ++ ('?' :: ' ' :: kind.keyword.toList ++ ' ' :: bound.textWith [] [])

end

def TypeExpression.text (type : TypeExpression) : Text := type.textWith [] []

theorem marks_text_cons (mark : Mark) (marks : List Mark) :
    marksText (mark :: marks) =
      mark.text ++ (marks.flatMap fun other => ' ' :: other.text) ++ [' '] := by
  induction marks generalizing mark with
  | nil => simp [marksText]
  | cons other marks ih =>
      have later := ih other
      simp only [marksText, List.flatMap_cons, List.append_assoc] at later ⊢
      rw [later]
      simp

end Texts

section Tags

variable {depth : Nat} {text read rest tail : Text} {parser : Syntax.Parser} {marks : List Mark}
  {fits : List Node → Prop}

theorem tag_loose (depth : Nat) : Loose (run grammar depth .tag) := by
  cases depth with
  | zero => exact fun _ _ _ _ _ => rfl
  | succ depth =>
      refine loose_choice fun parser member => ?_
      simp only [List.mem_cons, List.not_mem_nil, or_false] at member
      rcases member with rfl | rfl <;> exact loose_node

theorem tag_rejects (depth : Nat) (next : NextAvoids ['/', '@'] text) :
    Rejects Grammar.style (run grammar depth .tag) text := by
  cases depth with
  | zero => exact fun _ _ _ => rfl
  | succ depth =>
      have token := next_token next (by simp)
      have noMark : Rejects Grammar.style (mark "@") (text.dropWhile Grammar.isBlank) :=
        mark_rejects "@" rfl (next_avoids_token next)
      refine rejects_gap (tag_loose _) (rejects_choice fun parser member => ?_)
      simp only [List.mem_cons, List.not_mem_nil, or_false] at member
      rcases member with rfl | rfl <;> exact rejects_node token (rejects_absent noMark)

def Mark.ReadAt (depth : Nat) (mark : Mark) : Prop :=
  ∀ rest, Stops ['/', '(', '.'] rest →
    Accepts Grammar.style (run grammar depth .tag) mark.text rest (Single (TagShaped mark.text))

theorem marks_read (marks : List Mark) :
    ∀ᶠ depth in Filter.atTop, ∀ mark ∈ marks, mark.ReadAt depth := by
  induction marks with
  | nil => simp
  | cons mark marks ih =>
      filter_upwards [mark.accepted, ih] with depth first later
      exact List.forall_mem_cons.mpr ⟨first, later⟩

/-- What can not follow an annotation without being taken for a part of it or for another one. -/
def tagStops : List Char := ['/', '(', '.', '@']

/-- A word is neither a part of an annotation nor an annotation, nor a wildcard. -/
theorem word_apart {word : Text} (whole : Grammar.wordAt word = word) (nonempty : word ≠ [])
    (rest : Text) : NextAvoids ('?' :: tagStops) (word ++ rest) := by
  obtain ⟨c, letters, rfl, start, -⟩ := word_split whole nonempty
  have other : c ∉ '?' :: tagStops := word_start_no_mark start (each_of_all (by decide))
  exact next_avoids_cons (word_start_dark start) other _

theorem tags_stop (next : NextAvoids tagStops tail) (marks : List Mark) :
    Stops ['/', '(', '.'] ((marks.flatMap fun mark => ' ' :: mark.text) ++ ' ' :: tail) := by
  cases marks with
  | nil =>
      exact ⟨avoids_cons rfl _, next_avoids_blank rfl (next_avoids_fewer next (by simp [tagStops]))⟩
  | cons mark marks =>
      exact ⟨avoids_cons rfl _, next_avoids_blank rfl (next_avoids_cons rfl (by simp) _)⟩

theorem tag_shaped_cons {mark : Mark} {nodes : List Node}
    (found : ∃ front back, nodes = front ++ back ∧ Single (TagShaped mark.text) front ∧
      TagsShaped marks back) : TagsShaped (mark :: marks) nodes := by
  obtain ⟨_, back, rfl, ⟨tag, rfl, shaped⟩, others⟩ := found
  exact List.Forall₂.cons shaped others

theorem later_tags (next : NextAvoids tagStops tail) (each : ∀ mark ∈ marks, mark.ReadAt depth) :
    Repeats Grammar.style (run grammar depth .tag) (marks.flatMap fun mark => ' ' :: mark.text)
      (' ' :: tail) (TagsShaped marks) := by
  induction marks with
  | nil =>
      have other := next_avoids_blank (c := ' ') rfl next
      refine repeats_imp (repeats_stop (tag_rejects depth (next_avoids_fewer other ?_))) ?_
      · simp [tagStops]
      · rintro _ rfl
        exact List.Forall₂.nil
  | cons mark marks ih =>
      obtain ⟨first, others⟩ := List.forall_mem_cons.mp each
      have here := accepts_blank (c := ' ') (tag_loose depth) rfl (first _ (tags_stop next marks))
      exact repeats_imp (repeats_next (by simp) here (ih others)) fun _ => tag_shaped_cons

-- The blank behind the last annotation is left to what follows.
theorem tags_accepted (next : NextAvoids tagStops tail) (each : ∀ mark ∈ marks, mark.ReadAt depth) :
    ∃ read gap, marksText marks = read ++ gap ∧ (gap = [] ∨ gap = [' ']) ∧
      Accepts Grammar.style (many (run grammar depth .tag)) read (gap ++ tail) (TagsShaped marks) := by
  cases marks with
  | nil =>
      refine ⟨[], [], rfl, Or.inl rfl, accepts_many (repeats_imp (repeats_stop ?_) ?_)⟩
      · exact tag_rejects depth (next_avoids_fewer next (by simp [tagStops]))
      · rintro _ rfl
        exact List.Forall₂.nil
  | cons mark marks =>
      obtain ⟨first, others⟩ := List.forall_mem_cons.mp each
      refine ⟨_, [' '], marks_text_cons mark marks, Or.inr rfl, accepts_many ?_⟩
      exact repeats_imp (repeats_next (by simp [Mark.text]) (first _ (tags_stop next marks))
        (later_tags next others)) fun _ => tag_shaped_cons

theorem marked_accepts (loose : Loose parser) (next : NextAvoids tagStops (read ++ rest))
    (each : ∀ mark ∈ marks, mark.ReadAt depth) (accepts : Accepts Grammar.style parser read rest fits) :
    Accepts Grammar.style (both (many (run grammar depth .tag)) parser) (marksText marks ++ read) rest
      fun nodes => ∃ tags back, nodes = tags ++ back ∧ TagsShaped marks tags ∧ fits back := by
  obtain ⟨front, gap, same, blank, tags⟩ := tags_accepted next each
  have later : Accepts Grammar.style parser (gap ++ read) rest fits := by
    rcases blank with rfl | rfl
    · exact accepts
    · exact accepts_blank loose rfl accepts
  rw [same, List.append_assoc]
  rw [← List.append_assoc] at tags
  exact accepts_both tags later

theorem marked_rejects (loose : Loose parser) (next : NextAvoids tagStops tail)
    (each : ∀ mark ∈ marks, mark.ReadAt depth) (rejects : Rejects Grammar.style parser tail) :
    Rejects Grammar.style (both (many (run grammar depth .tag)) parser) (marksText marks ++ tail) := by
  obtain ⟨front, gap, same, blank, tags⟩ := tags_accepted next each
  have later : Rejects Grammar.style parser (gap ++ tail) := by
    rcases blank with rfl | rfl
    · exact rejects
    · exact rejects_blank loose rfl rejects
  rw [same, List.append_assoc]
  exact rejects_behind tags later

theorem marked_token (token : Avoids Grammar.style.startsTrivia tail) (marks : List Mark) :
    Avoids Grammar.style.startsTrivia (marksText marks ++ tail) := by
  cases marks with
  | nil => exact token
  | cons mark marks => exact avoids_cons rfl _

end Tags

section Roles

variable {node : Node} {role kind : String} {shape : Node → Prop}

theorem in_role (code : node.kind ∉ ["line_comment", "block_comment"]) (role : String) :
    withField Grammar.style role node =
      .mk { node.label with field := some role } node.children := by
  have noComment : Syntax.Parser.isComment Grammar.style node = false := by
    simpa [Syntax.Parser.isComment, Grammar.style] using code
  cases node
  simp only [withField, noComment]
  rfl

/-- What is said of a node is not said of its role, and it is not said of comments. -/
structure Roleless (shape : Node → Prop) : Prop where
  code : ∀ node, shape node → node.kind ∉ ["line_comment", "block_comment"]
  kept : ∀ label children field, shape (.mk label children) → shape (.mk { label with field } children)

theorem Roleless.in_role (roleless : Roleless shape) (shaped : shape node) (role : String) :
    (withField Grammar.style role node).hasField role = true ∧
      shape (withField Grammar.style role node) := by
  rw [Java.in_role (roleless.code node shaped)]
  cases node
  exact ⟨by simp [Node.hasField, Node.label], roleless.kept _ _ _ shaped⟩

theorem node_roleless (code : kind ∉ ["line_comment", "block_comment"]) : Roleless (IsNode kind) where
  code _ shaped := shaped.kind ▸ code
  kept _ _ _ shaped := ⟨shaped.kind, shaped.named⟩

theorem covers_roleless {text : Text} (code : kind ∉ ["line_comment", "block_comment"]) :
    Roleless (Covers kind true text) where
  code _ shaped := shaped.kind ▸ code
  kept _ _ _ shaped := ⟨shaped.kind, shaped.named, shaped.text⟩

theorem basic_roleless (type : BasicType) : Roleless (Covers type.kind true type.keyword.toList) :=
  covers_roleless (by cases type <;> simp [BasicType.kind])

theorem member_roleless {outer : Node → Prop} {marks : List Mark} {name : Identifier} :
    Roleless (MemberShaped outer marks name) where
  code _ shaped := by simp [shaped.1.kind]
  kept _ _ _ shaped := ⟨⟨shaped.1.kind, shaped.1.named⟩, shaped.2⟩

theorem applied_roleless (roleless : Roleless shape) (arguments : Option (List Argument)) :
    Roleless (appliedShape shape arguments) := by
  cases arguments with
  | none => simpa only [appliedShape] using roleless
  | some arguments =>
      simp only [appliedShape]
      exact ⟨fun _ shaped => by simp [shaped.1.kind],
        fun _ _ _ shaped => ⟨⟨shaped.1.kind, shaped.1.named⟩, shaped.2⟩⟩

theorem class_roleless (type : ClassType) : Roleless type.Shaped := by
  cases type with
  | simple name arguments =>
      rw [ClassType.Shaped]
      exact applied_roleless (covers_roleless (by simp)) arguments
  | member outer marks name arguments =>
      rw [ClassType.Shaped]
      exact applied_roleless member_roleless arguments

end Roles

section Surroundings

variable {depth : Nat} {core rest : Text} {marks : List Mark} {dimensions : List (List Mark)}
  {shape : Node → Prop}

def nameStops : List Char := ['/', '.', '<']

def typeStops : List Char := ['/', '.', '<', '[', '@']

def dimension (depth : Nat) : Syntax.Parser :=
  both (many (run grammar depth .tag)) (both (mark "[") (mark "]"))

theorem dimension_accepts (each : ∀ mark ∈ marks, mark.ReadAt depth) (rest : Text) :
    Accepts Grammar.style (dimension depth) (marksText marks ++ ['[', ']']) rest fun _ => True := by
  have brackets := accepts_both (mark_accepts "[" rfl rfl (']' :: rest))
    (mark_accepts "]" rfl rfl rest)
  have next : NextAvoids tagStops (['[', ']'] ++ rest) := next_avoids_cons rfl (by simp [tagStops]) _
  exact accepts_imp (marked_accepts (loose_both loose_leaf) next each brackets) fun _ _ => trivial

theorem dimension_rejects (depth : Nat) (next : NextAvoids ['/', '[', '@'] rest) :
    Rejects Grammar.style (dimension depth) rest := by
  have noTags := repeats_stop (tag_rejects depth (next_avoids_fewer next (by simp)))
  have noBracket := mark_rejects (c := '[') "[" rfl (next_avoids_fewer next (by simp))
  exact rejects_behind (accepts_many noTags) (rejects_both noBracket)

theorem dimensions_repeat (next : NextAvoids ['/', '[', '@'] rest)
    (each : ∀ marks ∈ dimensions, ∀ mark ∈ marks, mark.ReadAt depth) :
    Repeats Grammar.style (dimension depth) (dimensionsText dimensions) rest fun _ => True := by
  induction dimensions with
  | nil => exact repeats_imp (repeats_stop (dimension_rejects depth next)) fun _ _ => trivial
  | cons marks dimensions ih =>
      obtain ⟨first, others⟩ := List.forall_mem_cons.mp each
      exact repeats_imp (repeats_next (by simp) (dimension_accepts first _) (ih others))
        fun _ _ => trivial

theorem dimensions_accepts (next : NextAvoids ['/', '[', '@'] rest)
    (each : ∀ other ∈ marks :: dimensions, ∀ mark ∈ other, mark.ReadAt depth) :
    Accepts Grammar.style (Grammar.dimensions (run grammar depth)) (dimensionsText (marks :: dimensions))
      rest (Single (IsNode "dimensions")) := by
  obtain ⟨first, others⟩ := List.forall_mem_cons.mp each
  have token : Avoids Grammar.style.startsTrivia (dimensionsText (marks :: dimensions) ++ rest) := by
    simp only [dimensionsText, List.flatMap_cons, List.append_assoc]
    exact marked_token (avoids_cons rfl _) marks
  have brackets := accepts_both (dimension_accepts first _)
    (accepts_many (dimensions_repeat next others))
  exact accepts_shape (accepts_node token brackets) fun node made => covers_node made.1

theorem plain_loose (depth : Nat) : Loose (run grammar depth .plainType) := by
  cases depth with
  | zero => exact fun _ _ _ _ _ => rfl
  | succ depth => exact loose_grow_once

theorem plain_accepts (token : ∀ rest, Avoids Grammar.style.startsTrivia (core ++ rest))
    (roleless : Roleless shape)
    (accepts : ∀ rest, Stops nameStops rest →
      Accepts Grammar.style (Grammar.simpleType (run grammar depth)) core rest (Single shape))
    (each : ∀ marks ∈ dimensions, ∀ mark ∈ marks, mark.ReadAt depth) (stops : Stops typeStops rest) :
    Accepts Grammar.style (run grammar (depth + 1) .plainType) (core ++ dimensionsText dimensions) rest
      (Single (WithDimensions shape dimensions)) := by
  have next : NextAvoids ['/', '[', '@'] rest := next_avoids_fewer stops.2 (by simp [typeStops])
  cases dimensions with
  | nil =>
      have bare := accepts rest ⟨stops.1, next_avoids_fewer stops.2 (by simp [typeStops, nameStops])⟩
      have noDimension : Rejects Grammar.style
          (field "dimensions" (Grammar.dimensions (run grammar depth))) rest :=
        rejects_field (rejects_gap loose_node (rejects_node (next_token next (by simp))
          (rejects_both (dimension_rejects depth (next_avoids_token next)))))
      rw [show dimensionsText [] = [] from rfl, List.append_nil]
      refine accepts_grow_once (token rest) (grows_start bare) (Or.inr ⟨rfl, ?_⟩)
      intro suffix member
      rw [List.mem_singleton.mp member]
      exact noDimension
  | cons first others =>
      have behind : Stops nameStops (dimensionsText (first :: others) ++ rest) := by
        simp only [dimensionsText, List.flatMap_cons, List.append_assoc]
        cases first with
        | nil => exact ⟨avoids_cons rfl _, next_avoids_cons rfl (by simp [nameStops]) _⟩
        | cons mark marks => exact ⟨avoids_cons rfl _, next_avoids_cons rfl (by simp [nameStops]) _⟩
      have brackets := accepts_field "dimensions" (dimensions_accepts next each)
      have grown := grows_step [] ⟨"array_type", some "element", _, none⟩ [] (grows_start (accepts _ behind))
        (by simp) rfl (by simp [dimensionsText]) brackets
      refine accepts_shape (accepts_grow_once (by rw [List.append_assoc]; exact token _) grown
        (Or.inl rfl)) ?_
      rintro node ⟨covers, element, _, parts, shaped, _, rfl, suffix, rfl, isSuffix⟩
      have inner := roleless.in_role shaped "element"
      have outer := (node_roleless (by simp)).in_role isSuffix "dimensions"
      exact ⟨covers_node covers, _, _, parts, inner.1, inner.2, outer.2⟩

theorem type_accepts (token : ∀ rest, Avoids Grammar.style.startsTrivia (core ++ rest))
    (apart : ∀ rest, NextAvoids tagStops (core ++ rest)) (roleless : Roleless shape)
    (accepts : ∀ rest, Stops nameStops rest →
      Accepts Grammar.style (Grammar.simpleType (run grammar depth)) core rest (Single shape))
    (each : ∀ mark ∈ marks, mark.ReadAt (depth + 1))
    (eachInner : ∀ marks ∈ dimensions, ∀ mark ∈ marks, mark.ReadAt depth)
    (stops : Stops typeStops rest) :
    Accepts Grammar.style (run grammar (depth + 2) .type)
      (marksText marks ++ (core ++ dimensionsText dimensions)) rest
      (Single (WithMarks (WithDimensions shape dimensions) marks)) := by
  have plain := plain_accepts token roleless accepts eachInner stops
  cases marks with
  | nil =>
      have next : NextAvoids tagStops (core ++ dimensionsText dimensions ++ rest) := by
        rw [List.append_assoc]
        exact apart _
      have noTag := tag_rejects (depth + 1) (next_avoids_fewer next (by simp [tagStops]))
      have begins : Avoids Grammar.style.startsTrivia (core ++ dimensionsText dimensions ++ rest) := by
        rw [List.append_assoc]
        exact token _
      exact accepts_later (rejects_node begins (rejects_both (rejects_both noTag)))
        (accepts_choice plain)
  | cons mark marks =>
      obtain ⟨first, others⟩ := List.forall_mem_cons.mp each
      have next : NextAvoids tagStops (core ++ dimensionsText dimensions ++ rest) := by
        rw [List.append_assoc]
        exact apart _
      have tags := accepts_both (first _ (tags_stop next marks)) (accepts_many (later_tags next others))
      have whole := accepts_both tags (accepts_blank (c := ' ') (plain_loose _) rfl plain)
      have same : marksText (mark :: marks) ++ (core ++ dimensionsText dimensions) =
          mark.text ++ (marks.flatMap fun other => ' ' :: other.text) ++
            ' ' :: (core ++ dimensionsText dimensions) := by
        rw [marks_text_cons, List.append_assoc _ [' ']]
        rfl
      rw [same]
      refine accepts_choice (accepts_shape (accepts_node (avoids_cons rfl _) whole) ?_)
      rintro node ⟨covers, tagNodes, _, parts, tagged, type, rfl, shaped⟩
      exact ⟨covers_node covers, tagNodes, type, parts, tag_shaped_cons tagged, shaped⟩

end Surroundings

section Basics

variable {text word rest : Text} {words : List String} {name : String}

theorem any_keyword_accepts (each : ∀ other ∈ words, Grammar.wordAt other.toList = other.toList ∧
      other.toList ≠ []) (member : name ∈ words) (stop : Avoids Grammar.isWordPart rest) :
    Accepts Grammar.style (Grammar.anyKeyword words) name.toList rest fun _ => True := by
  obtain ⟨whole, nonempty⟩ := each name member
  have here := accepts_imp (keyword_accepts name rfl whole nonempty stop) fun _ _ => trivial
  induction words with
  | nil => cases member
  | cons other words ih =>
      by_cases same : other = name
      · subst same
        exact accepts_choice here
      · have differs : Grammar.wordAt (name.toList ++ rest) ≠ other.toList := by
          rw [word_at_append whole nonempty stop]
          exact fun equal => same (String.toList_inj.mp equal.symm)
        have later : name ∈ words := by simpa [Ne.symm same] using member
        exact accepts_later (keyword_rejects (word_token whole nonempty rest) differs)
          (ih (fun third known => each third (List.mem_cons_of_mem _ known)) later)

theorem any_keyword_rejects (token : Avoids Grammar.style.startsTrivia text)
    (other : ∀ name ∈ words, Grammar.wordAt text ≠ name.toList) :
    Rejects Grammar.style (Grammar.anyKeyword words) text := by
  refine rejects_choice fun parser member => ?_
  obtain ⟨name, known, rfl⟩ := List.mem_map.mp member
  exact keyword_rejects token (other name known)

theorem basic_word (type : BasicType) :
    Grammar.wordAt type.keyword.toList = type.keyword.toList ∧ type.keyword.toList ≠ [] := by
  cases type <;> exact ⟨by decide, by decide⟩

theorem basic_accepts (rules : Grammar.Rule → Syntax.Parser) (type : BasicType)
    (stop : Avoids Grammar.isWordPart rest) :
    Accepts Grammar.style (Grammar.simpleType rules) type.keyword.toList rest
      (Single (Covers type.kind true type.keyword.toList)) := by
  obtain ⟨whole, nonempty⟩ := basic_word type
  have token := word_token whole nonempty rest
  have other : ∀ name : String, name ≠ type.keyword →
      Grammar.wordAt (type.keyword.toList ++ rest) ≠ name.toList := by
    intro name differs
    rw [word_at_append whole nonempty stop]
    exact fun same => differs (String.toList_inj.mp same.symm)
  have covered : ∀ {kind : String} {parser : Syntax.Parser} {fits : List Node → Prop},
      Accepts Grammar.style parser type.keyword.toList rest fits →
        Accepts Grammar.style (Syntax.Parser.node kind parser) type.keyword.toList rest
          (Single (Covers kind true type.keyword.toList)) := by
    intro kind parser fits accepts
    exact accepts_shape (accepts_node token accepts) fun node made => made.1
  have noKeyword : ∀ {kind : String} {words : List String}, type.keyword ∉ words →
      Rejects Grammar.style (Syntax.Parser.node kind (Grammar.anyKeyword words))
        (type.keyword.toList ++ rest) := by
    intro kind words missing
    refine rejects_node token (any_keyword_rejects token fun name member => other name ?_)
    rintro rfl
    exact missing member
  have noVoid : type.keyword ≠ "void" → Rejects Grammar.style
      (Syntax.Parser.node "void_type" (Grammar.keyword "void")) (type.keyword.toList ++ rest) :=
    fun differs => rejects_node token (keyword_rejects token (other _ (Ne.symm differs)))
  apply accepts_choice
  cases type
  case void => exact accepts_choice (covered (keyword_accepts "void" rfl whole nonempty stop))
  case byte | short | int | long | char =>
    exact accepts_later (noVoid (by decide)) (accepts_choice
      (covered (any_keyword_accepts (by decide) (by decide) stop)))
  case float | double =>
    exact accepts_later (noVoid (by decide)) (accepts_later (noKeyword (by decide))
      (accepts_choice (covered (any_keyword_accepts (by decide) (by decide) stop))))
  case boolean =>
    refine accepts_later (noVoid (by decide)) (accepts_later (noKeyword (by decide))
      (accepts_later (noKeyword (by decide)) (accepts_choice ?_)))
    have measured : Grammar.keywordLength? "boolean" (BasicType.boolean.keyword.toList ++ rest) =
        some BasicType.boolean.keyword.toList.length := by
      rw [Grammar.keywordLength?, word_at_append whole nonempty stop]
      rfl
    exact accepts_shape (accepts_leaf token measured) fun node made => made.1

end Basics

section Refusals

variable {text : Text}

theorem primitive_rejects (token : Avoids Grammar.style.startsTrivia text)
    (other : ∀ name ∈ Grammar.primitiveTypes, Grammar.wordAt text ≠ name.toList) :
    Rejects Grammar.style Grammar.primitiveType text := by
  have keywords : ∀ words : List String, words ⊆ Grammar.primitiveTypes →
      Rejects Grammar.style (Grammar.anyKeyword words) text :=
    fun words known => any_keyword_rejects token fun name member => other name (known member)
  refine rejects_choice fun parser member => ?_
  simp only [List.mem_cons, List.not_mem_nil, or_false] at member
  rcases member with rfl | rfl | rfl | rfl
  · exact rejects_node token (keyword_rejects token (other "void" (by decide)))
  · exact rejects_node token (keywords _ (by decide))
  · exact rejects_node token (keywords _ (by decide))
  · refine rejects_leaf token ?_
    rw [Grammar.keywordLength?, if_neg (by simpa using other "boolean" (by decide))]

theorem type_rejects (depth : Nat) (token : Avoids Grammar.style.startsTrivia text)
    (noTag : NextAvoids ['/', '@'] text) (noWord : Grammar.wordAt text = []) :
    Rejects Grammar.style (run grammar depth .type) text := by
  have noName : Rejects Grammar.style Grammar.typeName text :=
    rejects_leaf token (by rw [Grammar.wordLength?, noWord])
  have noPlain : Rejects Grammar.style (run grammar (depth - 1) .plainType) text := by
    cases depth - 1 with
    | zero => exact fun _ _ _ => rfl
    | succ depth =>
        refine rejects_grow_once token (rejects_choice fun parser member => ?_)
        simp only [List.mem_cons, List.not_mem_nil, or_false] at member
        rcases member with rfl | rfl
        · refine primitive_rejects token fun name member => ?_
          rw [noWord]
          revert name
          decide
        · exact rejects_grow token noName
  cases depth with
  | zero => exact fun _ _ _ => rfl
  | succ depth =>
      refine rejects_choice fun parser member => ?_
      simp only [List.mem_cons, List.not_mem_nil, or_false] at member
      rcases member with rfl | rfl
      · exact rejects_node token (rejects_both (rejects_both (tag_rejects depth noTag)))
      · exact noPlain

end Refusals

end PatternInspector.Java
