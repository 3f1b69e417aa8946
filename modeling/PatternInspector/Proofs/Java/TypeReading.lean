import PatternInspector.Proofs.Java.TypeParts

/-!
The grammar reads the text of every type expression as one node of the shape that belongs to it, so
the name of a type is the name of that node.

The rules refer to each other to a limited depth, so what a rule reads is said for all depths from
some depth on.
-/
namespace PatternInspector.Java

open PatternInspector.Syntax (Node)
open PatternInspector.Syntax.Parser
open PatternInspector.Text (Avoids avoids_nil avoids_cons avoids_append each_of_all)

section Arguments

variable {depth : Nat} {rest boundText : Text} {marks : List Mark} {fits : List Node → Prop}

def EndsArgument (rest : Text) : Prop := ∃ c after, rest = c :: after ∧ (c = ',' ∨ c = '>')

theorem EndsArgument.stops (ends : EndsArgument rest) : Stops typeStops rest := by
  obtain ⟨c, after, rfl, rfl | rfl⟩ := ends
  · exact ⟨avoids_cons rfl _, next_avoids_cons rfl (by simp [typeStops]) _⟩
  · exact ⟨avoids_cons rfl _, next_avoids_cons rfl (by simp [typeStops]) _⟩

theorem EndsArgument.token (ends : EndsArgument rest) : Avoids Grammar.style.startsTrivia rest := by
  obtain ⟨c, after, rfl, rfl | rfl⟩ := ends <;> exact avoids_cons rfl _

theorem EndsArgument.no_word (ends : EndsArgument rest) : Grammar.wordAt rest = [] := by
  obtain ⟨c, after, rfl, rfl | rfl⟩ := ends <;> rfl

def boundPart (depth : Nat) : Syntax.Parser := opt (choice [
  both (Grammar.keyword "extends") (run grammar depth .type),
  both (Syntax.Parser.node "super" (Grammar.keyword "super")) (run grammar depth .type)])

theorem type_loose (depth : Nat) : Loose (run grammar depth .type) := by
  cases depth with
  | zero => exact fun _ _ _ _ _ => rfl
  | succ depth =>
      refine loose_choice fun parser member => ?_
      simp only [List.mem_cons, List.not_mem_nil, or_false] at member
      rcases member with rfl | rfl
      · exact loose_node
      · exact plain_loose depth

theorem unbounded_accepts (depth : Nat) (ends : EndsArgument rest) :
    Accepts Grammar.style (boundPart depth) [] rest fun _ => True := by
  have noKeyword : ∀ name : String, name.toList ≠ [] →
      Rejects Grammar.style (Grammar.keyword name) rest := fun name nonempty =>
    keyword_rejects ends.token (by rw [ends.no_word]; exact nonempty.symm)
  refine accepts_later (rejects_choice fun parser member => ?_)
    (accepts_choice (accepts_imp accepts_done fun _ _ => trivial))
  simp only [List.mem_cons, List.not_mem_nil, or_false] at member
  rcases member with rfl | rfl
  · exact rejects_both (noKeyword _ (by decide))
  · exact rejects_both (rejects_node ends.token (noKeyword _ (by decide)))

theorem last_of_single {shape : Node → Prop} (nodes : List Node)
    (parts : ∃ front back, nodes = front ++ back ∧ fits front ∧ Single shape back) :
    ∃ front last, nodes = front ++ [last] ∧ shape last := by
  obtain ⟨front, _, rfl, -, node, rfl, shaped⟩ := parts
  exact ⟨front, node, rfl, shaped⟩

theorem bounded_accepts (kind : BoundKind) {shape : Node → Prop}
    (accepts : Accepts Grammar.style (run grammar depth .type) boundText rest (Single shape)) :
    Accepts Grammar.style (boundPart depth) (' ' :: kind.keyword.toList ++ ' ' :: boundText) rest
      fun nodes => ∃ front last, nodes = front ++ [last] ∧ shape last := by
  have whole : Grammar.wordAt kind.keyword.toList = kind.keyword.toList := by cases kind <;> decide
  have nonempty : kind.keyword.toList ≠ [] := by cases kind <;> decide
  have stop : Avoids Grammar.isWordPart (' ' :: boundText ++ rest) := avoids_cons rfl _
  have bound := accepts_blank (c := ' ') (type_loose depth) rfl accepts
  have word := keyword_accepts kind.keyword rfl whole nonempty stop
  apply accepts_choice
  cases kind with
  | «extends» =>
      have limit := accepts_both (accepts_blank (c := ' ') loose_leaf rfl word) bound
      exact accepts_choice (accepts_imp limit last_of_single)
  | super =>
      have token := word_token whole nonempty (' ' :: boundText ++ rest)
      have other : Grammar.wordAt (BoundKind.super.keyword.toList ++ (' ' :: boundText ++ rest)) ≠
          "extends".toList := by
        rw [word_at_append whole nonempty stop]
        decide
      have named : Accepts Grammar.style (Syntax.Parser.node "super" (Grammar.keyword "super"))
          (' ' :: BoundKind.super.keyword.toList) (' ' :: boundText ++ rest) fun _ => True :=
        accepts_imp (accepts_blank loose_node rfl (accepts_node token word)) fun _ _ => trivial
      refine accepts_later (rejects_both ?_)
        (accepts_choice (accepts_imp (accepts_both named bound) last_of_single))
      rw [List.cons_append, List.cons_append, List.append_assoc]
      exact rejects_blank loose_leaf rfl (keyword_rejects token other)

theorem wildcard_accepts (each : ∀ mark ∈ marks, mark.ReadAt depth)
    (bound : Accepts Grammar.style (boundPart depth) boundText rest fits) :
    Accepts Grammar.style (Grammar.wildcard (run grammar depth)) (marksText marks ++ '?' :: boundText)
      rest (Single fun node => IsNode "wildcard" node ∧
        ∃ front back, node.children = front ++ back ∧ fits back) := by
  have sign := accepts_both (mark_accepts "?" rfl rfl (boundText ++ rest)) bound
  have next : NextAvoids tagStops ('?' :: boundText ++ rest) :=
    next_avoids_cons rfl (by simp [tagStops]) _
  have whole := marked_accepts (loose_both loose_leaf) next each sign
  have token : Avoids Grammar.style.startsTrivia (marksText marks ++ '?' :: boundText ++ rest) := by
    rw [List.append_assoc]
    exact marked_token (avoids_cons rfl _) marks
  refine accepts_shape (accepts_node token whole) ?_
  rintro node ⟨covers, tags, _, parts, -, sign, back, rfl, -, fit⟩
  exact ⟨covers_node covers, tags ++ sign, back, by rw [parts, List.append_assoc], fit⟩

theorem wildcard_rejects {tail : Text} (each : ∀ mark ∈ marks, mark.ReadAt depth)
    (token : Avoids Grammar.style.startsTrivia tail) (next : NextAvoids ('?' :: tagStops) tail) :
    Rejects Grammar.style (Grammar.wildcard (run grammar depth)) (marksText marks ++ tail) := by
  have noSign : Rejects Grammar.style (mark "?") tail :=
    mark_rejects (c := '?') "?" rfl (next_avoids_fewer next (by simp [tagStops]))
  refine rejects_node (marked_token token marks) ?_
  exact marked_rejects (loose_both loose_leaf) (next_avoids_fewer next (by simp)) each
    (rejects_both noSign)

def argument (depth : Nat) : Syntax.Parser :=
  choice [Grammar.wildcard (run grammar depth), run grammar depth .type]

def Argument.ReadAt (depth : Nat) (given : Argument) : Prop :=
  ∀ rest, EndsArgument rest →
    Accepts Grammar.style (argument depth) given.text rest (Single given.Shaped)

theorem argument_named (given : Argument) {node : Node} (shaped : given.Shaped node) :
    node.label.isNamed = true := by
  cases given with
  | exact type =>
      rw [Argument.Shaped] at shaped
      exact (type_denotes type [] [] node shaped).2.1
  | wildcard marks =>
      rw [Argument.Shaped] at shaped
      exact shaped.named
  | bounded marks kind bound =>
      rw [Argument.Shaped] at shaped
      exact shaped.1.named

def ArgumentNodes (arguments : List Argument) (nodes : List Node) : Prop :=
  argumentsShaped arguments (nodes.filter (·.label.isNamed))

theorem argument_nodes_cons {first : Argument} {arguments : List Argument} {nodes others : List Node}
    (one : Single first.Shaped nodes) (later : ArgumentNodes arguments others) :
    ArgumentNodes (first :: arguments) (nodes ++ others) := by
  obtain ⟨node, rfl, shaped⟩ := one
  have named := argument_named first shaped
  rw [ArgumentNodes, List.singleton_append, List.filter_cons_of_pos (by exact named),
    argumentsShaped]
  exact ⟨node, _, rfl, shaped, later⟩

theorem argument_nodes_mark {arguments : List Argument} {nodes others : List Node} {name : String}
    {text : Text} (sign : Single (fun node => Covers name false text node ∧ node.children = []) nodes) :
    ArgumentNodes arguments (nodes ++ others) ↔ ArgumentNodes arguments others := by
  obtain ⟨node, rfl, covers, -⟩ := sign
  rw [ArgumentNodes, List.singleton_append, List.filter_cons_of_neg (by simp [covers.named])]
  rfl

theorem further_ends (arguments : List Argument) (rest : Text) :
    EndsArgument (furtherText arguments ++ '>' :: rest) := by
  cases arguments with
  | nil => exact ⟨'>', rest, by simp [furtherText], Or.inr rfl⟩
  | cons first arguments => exact ⟨',', _, by rw [furtherText]; rfl, Or.inl rfl⟩

theorem further_repeats {arguments : List Argument} (each : ∀ given ∈ arguments, given.ReadAt depth)
    (rest : Text) :
    Repeats Grammar.style (both Grammar.comma (argument depth)) (furtherText arguments) ('>' :: rest)
      (ArgumentNodes arguments) := by
  induction arguments with
  | nil =>
      have noComma : Rejects Grammar.style Grammar.comma ('>' :: rest) :=
        mark_rejects (c := ',') "," rfl (next_avoids_cons rfl (by simp) rest)
      rw [furtherText]
      refine repeats_imp (repeats_stop (rejects_both noComma)) ?_
      rintro _ rfl
      rw [ArgumentNodes, List.filter_nil, argumentsShaped]
  | cons first arguments ih =>
      obtain ⟨here, others⟩ := List.forall_mem_cons.mp each
      have one := accepts_both (mark_accepts "," rfl rfl _) (here _ (further_ends arguments rest))
      rw [furtherText]
      refine repeats_imp (repeats_next (by simp) one (ih others)) ?_
      rintro _ ⟨_, back, rfl, ⟨sign, node, rfl, comma, shaped⟩, later⟩
      rw [List.append_assoc, argument_nodes_mark comma]
      exact argument_nodes_cons shaped later

theorem comma_separated_accepts {arguments : List Argument}
    (each : ∀ given ∈ arguments, given.ReadAt depth) (rest : Text) :
    ∃ text, appliedText (some arguments) = '<' :: (text ++ ['>']) ∧
      Accepts Grammar.style (Grammar.commaSep (argument depth)) text ('>' :: rest)
        (ArgumentNodes arguments) := by
  cases arguments with
  | nil =>
      have ends : EndsArgument ('>' :: rest) := ⟨'>', rest, rfl, Or.inr rfl⟩
      have noMarks : ∀ mark ∈ ([] : List Mark), mark.ReadAt depth := by simp
      have noWildcard : Rejects Grammar.style (Grammar.wildcard (run grammar depth)) ('>' :: rest) :=
        wildcard_rejects noMarks ends.token (next_avoids_cons rfl (by simp [tagStops]) _)
      have noType := type_rejects depth ends.token (next_avoids_cons rfl (by simp) _) ends.no_word
      have noArgument : Rejects Grammar.style (argument depth) ('>' :: rest) := by
        refine rejects_choice fun parser member => ?_
        simp only [List.mem_cons, List.not_mem_nil, or_false] at member
        rcases member with rfl | rfl
        · exact noWildcard
        · exact noType
      refine ⟨[], by rw [appliedText]; rfl, accepts_later (rejects_both noArgument) (accepts_choice ?_)⟩
      refine accepts_imp accepts_done ?_
      rintro _ rfl
      rw [ArgumentNodes, List.filter_nil, argumentsShaped]
  | cons first arguments =>
      obtain ⟨here, others⟩ := List.forall_mem_cons.mp each
      have all := accepts_both (here _ (further_ends arguments rest))
        (accepts_many (further_repeats others rest))
      refine ⟨first.text ++ furtherText arguments, by rw [appliedText]; rfl,
        accepts_choice (accepts_imp all ?_)⟩
      rintro _ ⟨node, back, rfl, shaped, later⟩
      exact argument_nodes_cons shaped later

theorem arguments_accepts {arguments : List Argument} (each : ∀ given ∈ arguments, given.ReadAt depth)
    (rest : Text) :
    Accepts Grammar.style (Grammar.typeArguments (run grammar depth)) (appliedText (some arguments)) rest
      (Single fun node => IsNode "type_arguments" node ∧
        argumentsShaped arguments node.namedChildren) := by
  obtain ⟨text, same, list⟩ := comma_separated_accepts each rest
  have closed := accepts_both list (mark_accepts ">" rfl rfl rest)
  have whole := accepts_both (mark_accepts "<" rfl rfl (text ++ ['>'] ++ rest)) closed
  rw [same]
  refine accepts_shape (accepts_node (avoids_cons rfl _) (accepts_under whole)) ?_
  rintro node ⟨covers, opening, _, parts, less, items, _, rfl, shaped, closing, rfl, more, -⟩
  have inside : ArgumentNodes arguments node.children := by
    rw [parts, argument_nodes_mark less, ArgumentNodes, List.filter_append,
      List.filter_cons_of_neg (by simp [more.named]), List.filter_nil, List.append_nil]
    exact shaped
  exact ⟨covers_node covers, inside⟩

end Arguments

section Classes

variable {depth : Nat} {text rest : Text} {shape : Node → Prop}

def applied (depth : Nat) : Suffix :=
  ⟨"generic_type", none, Grammar.typeArguments (run grammar depth), none⟩

def within (depth : Nat) : Suffix :=
  ⟨"scoped_type_identifier", none,
    both (mark ".") (both (many (run grammar depth .tag)) Grammar.typeName), none⟩

/-- Before `rest`, a name is extended until it covers the text, no more often than there are characters,
which is the limit of the grammar. -/
def ClassGrows (depth : Nat) (text rest : Text) (shape : Node → Prop) : Prop :=
  ∃ steps ≤ text.length,
    GrowsTo Grammar.style [applied depth, within depth] Grammar.typeName steps text rest shape

theorem applied_rejects (depth : Nat) (next : NextAvoids ['/', '<'] rest) :
    Rejects Grammar.style (applied depth).parser rest := by
  have noBracket : Rejects Grammar.style (mark "<") (rest.dropWhile Grammar.isBlank) :=
    mark_rejects "<" rfl (next_avoids_token next)
  exact rejects_gap loose_node
    (rejects_node (next_token next (by simp)) (rejects_under (rejects_both noBracket)))

theorem within_rejects (depth : Nat) (next : NextAvoids ['/', '.'] rest) :
    Rejects Grammar.style (within depth).parser rest :=
  rejects_both (mark_rejects "." rfl next)

theorem simple_grows (depth : Nat) (name : Identifier) (stop : Avoids Grammar.isWordPart rest) :
    ClassGrows depth name.text rest (Covers "type_identifier" true name.text) := by
  have accepts := identifier_accepts name "type_identifier" name.free stop
  exact ⟨0, Nat.zero_le _, grows_start (accepts_shape accepts fun node made => made.1)⟩

theorem member_grows {marks : List Mark} {name : Identifier}
    (grows : ∀ rest, Avoids Grammar.isWordPart rest → ClassGrows depth text rest shape)
    (each : ∀ mark ∈ marks, mark.ReadAt depth) (stop : Avoids Grammar.isWordPart rest) :
    ClassGrows depth (text ++ '.' :: (marksText marks ++ name.text)) rest
      (MemberShaped shape marks name) := by
  have next : NextAvoids tagStops (name.text ++ rest) :=
    next_avoids_fewer (word_apart name.word name.nonempty rest) (by simp)
  have last := identifier_accepts name "type_identifier" name.free stop
  have suffix := accepts_both (mark_accepts "." rfl rfl _) (marked_accepts loose_leaf next each last)
  obtain ⟨steps, room, grown⟩ := grows ('.' :: (marksText marks ++ name.text) ++ rest)
    (avoids_cons rfl _)
  have noArguments : ∀ other ∈ [applied depth],
      Rejects Grammar.style other.parser ('.' :: (marksText marks ++ name.text) ++ rest) := by
    intro other member
    rw [List.mem_singleton.mp member]
    exact applied_rejects depth (next_avoids_cons rfl (by simp) _)
  have step := grows_step [applied depth] (within depth) [] grown noArguments rfl (by simp) suffix
  refine ⟨steps + 1, by simp only [List.length_append, List.length_cons]; omega,
    grows_imp step ?_⟩
  rintro node ⟨covers, inner, _, parts, shaped, _, _, rfl, ⟨dot, rfl, isDot, -⟩, tags, _, rfl, tagged,
    final, rfl, isLast, -⟩
  exact ⟨covers_node covers, inner, dot, tags, final, parts, shaped, isDot.kind, tagged, isLast⟩

theorem applied_grows {arguments : Option (List Argument)}
    (grows : ∀ rest, Avoids Grammar.isWordPart rest → ClassGrows depth text rest shape)
    (each : ∀ list, arguments = some list → ∀ given ∈ list, given.ReadAt depth)
    (stop : Avoids Grammar.isWordPart rest) :
    ClassGrows depth (text ++ appliedText arguments) rest (appliedShape shape arguments) := by
  cases arguments with
  | none =>
      obtain ⟨steps, room, grown⟩ := grows rest stop
      rw [appliedText, List.append_nil]
      exact ⟨steps, room, grows_imp grown fun node shaped => by simpa only [appliedShape] using shaped⟩
  | some arguments =>
      have list := arguments_accepts (each arguments rfl) rest
      obtain ⟨inside, same, -⟩ := comma_separated_accepts (each arguments rfl) rest
      obtain ⟨steps, room, grown⟩ := grows (appliedText (some arguments) ++ rest)
        (by rw [same]; exact avoids_cons rfl _)
      have step := grows_step [] (applied depth) [within depth] grown (by simp) rfl (by simp [same]) list
      refine ⟨steps + 1, ?_, grows_imp step ?_⟩
      · rw [same]
        simp only [List.length_append, List.length_cons]
        omega
      · rintro node ⟨covers, base, _, parts, shaped, found, rfl, isList, items⟩
        rw [appliedShape]
        exact ⟨covers_node covers, base, found, parts, shaped, isList, items⟩

theorem applied_avoids_word (arguments : Option (List Argument)) :
    Avoids Grammar.isWordPart (appliedText arguments) := by
  cases arguments with
  | none =>
      rw [appliedText]
      exact avoids_nil _
  | some arguments =>
      cases arguments with
      | nil =>
          rw [appliedText]
          exact avoids_cons rfl _
      | cons first arguments =>
          rw [appliedText]
          exact avoids_cons rfl _

/-- A class type begins with a name. -/
theorem class_begins (type : ClassType) :
    ∃ (name : Identifier) (tail : Text), type.text = name.text ++ tail ∧
      Avoids Grammar.isWordPart tail := by
  match type with
  | .simple name arguments =>
      exact ⟨name, appliedText arguments, by rw [ClassType.text], applied_avoids_word arguments⟩
  | .member outer marks name arguments =>
      obtain ⟨first, tail, same, stop⟩ := class_begins outer
      have dot : Avoids Grammar.isWordPart ('.' :: (marksText marks ++ name.text)) := avoids_cons rfl _
      refine ⟨first, tail ++ '.' :: (marksText marks ++ name.text) ++ appliedText arguments, ?_,
        avoids_append (avoids_append stop fun _ => dot) fun _ => applied_avoids_word arguments⟩
      rw [ClassType.text, same]
      simp only [List.append_assoc]

theorem class_token (type : ClassType) (rest : Text) :
    Avoids Grammar.style.startsTrivia (type.text ++ rest) := by
  obtain ⟨name, tail, same, -⟩ := class_begins type
  rw [same, List.append_assoc]
  exact word_token name.word name.nonempty _

theorem class_apart (type : ClassType) (rest : Text) :
    NextAvoids ('?' :: tagStops) (type.text ++ rest) := by
  obtain ⟨name, tail, same, -⟩ := class_begins type
  rw [same, List.append_assoc]
  exact word_apart name.word name.nonempty _

theorem class_accepts {type : ClassType}
    (grows : ∀ rest, Avoids Grammar.isWordPart rest → ClassGrows depth type.text rest type.Shaped)
    (stops : Stops nameStops rest) :
    Accepts Grammar.style (Grammar.simpleType (run grammar depth)) type.text rest
      (Single type.Shaped) := by
  have token := class_token type rest
  have noPrimitive : Rejects Grammar.style Grammar.primitiveType (type.text ++ rest) := by
    obtain ⟨first, tail, same, stop⟩ := class_begins type
    refine primitive_rejects token fun name member => ?_
    rw [same, List.append_assoc, word_at_append first.word first.nonempty
      (avoids_append stop fun _ => stops.1)]
    intro equal
    rw [← String.ofList_toList (s := name), ← equal] at member
    exact first.free member
  obtain ⟨steps, room, grown⟩ := grows rest stops.1
  refine accepts_later noPrimitive (accepts_choice (accepts_grow token grown room ?_))
  intro suffix member
  simp only [List.mem_cons, List.not_mem_nil, or_false] at member
  rcases member with rfl | rfl
  · exact applied_rejects depth (next_avoids_fewer stops.2 (by simp [nameStops]))
  · exact within_rejects depth (next_avoids_fewer stops.2 (by simp [nameStops]))

end Classes

section Reading

variable {holds : Nat → Prop}

theorem eventually_deeper (count : Nat) (shallow : ∀ᶠ depth in Filter.atTop, holds depth) :
    ∀ᶠ depth in Filter.atTop, holds (depth + count) :=
  (Filter.tendsto_add_atTop_nat count).eventually shallow

theorem eventually_shallower (count : Nat)
    (deep : ∀ᶠ depth in Filter.atTop, holds (depth + count)) :
    ∀ᶠ depth in Filter.atTop, holds depth := by
  rwa [← Filter.map_add_atTop_eq_nat count, Filter.eventually_map]

def TypeExpression.ReadAt (depth : Nat) (type : TypeExpression) (marks : List Mark)
    (dimensions : List (List Mark)) : Prop :=
  ∀ rest, Stops typeStops rest →
    Accepts Grammar.style (run grammar depth .type) (type.textWith marks dimensions) rest
      (Single (type.ShapedWith marks dimensions))

theorem surroundings_read (marks : List Mark) (dimensions : List (List Mark)) :
    ∀ᶠ depth in Filter.atTop, (∀ mark ∈ marks, mark.ReadAt (depth + 1)) ∧
      ∀ marks ∈ dimensions, ∀ mark ∈ marks, mark.ReadAt depth := by
  filter_upwards [eventually_deeper 1 (marks_read marks), marks_read dimensions.flatten]
    with depth before behind
  refine ⟨before, fun marks known mark member => behind mark ?_⟩
  exact List.mem_flatten.mpr ⟨marks, known, member⟩

/-- Behind its annotations, a type begins with a word. -/
theorem type_begins : ∀ (type : TypeExpression) (marks : List Mark) (dimensions : List (List Mark)),
    ∃ (before : List Mark) (tail : Text), type.textWith marks dimensions = marksText before ++ tail ∧
      ∀ rest, Avoids Grammar.style.startsTrivia (tail ++ rest) ∧
        NextAvoids ('?' :: tagStops) (tail ++ rest)
  | .basic type, marks, dimensions => by
      obtain ⟨whole, nonempty⟩ := basic_word type
      refine ⟨marks, _, by rw [TypeExpression.textWith], fun rest => ?_⟩
      rw [List.append_assoc]
      exact ⟨word_token whole nonempty _, word_apart whole nonempty _⟩
  | .named type, marks, dimensions => by
      refine ⟨marks, _, by rw [TypeExpression.textWith], fun rest => ?_⟩
      rw [List.append_assoc]
      exact ⟨class_token type _, class_apart type _⟩
  | .array element own, marks, dimensions => by
      rw [TypeExpression.textWith]
      exact type_begins element marks (own :: dimensions)
  | .annotated mark type, marks, dimensions => by
      rw [TypeExpression.textWith]
      exact type_begins type (marks ++ [mark]) dimensions

theorem exact_read {type : TypeExpression}
    (read : ∀ᶠ depth in Filter.atTop, type.ReadAt depth [] []) :
    ∀ᶠ depth in Filter.atTop, (Argument.exact type).ReadAt depth := by
  obtain ⟨marks, tail, same, begins⟩ := type_begins type [] []
  filter_upwards [read, marks_read marks] with depth accepts each
  intro rest ends
  have noWildcard : Rejects Grammar.style (Grammar.wildcard (run grammar depth))
      (type.textWith [] [] ++ rest) := by
    rw [same, List.append_assoc]
    exact wildcard_rejects each (begins rest).1 (begins rest).2
  rw [Argument.text]
  refine accepts_later noWildcard (accepts_choice (accepts_shape (accepts rest ends.stops) ?_))
  intro node shaped
  rwa [Argument.Shaped]

theorem wildcard_read (marks : List Mark) :
    ∀ᶠ depth in Filter.atTop, (Argument.wildcard marks).ReadAt depth := by
  filter_upwards [marks_read marks] with depth each
  intro rest ends
  rw [Argument.text]
  refine accepts_choice (accepts_shape (wildcard_accepts each (unbounded_accepts depth ends)) ?_)
  intro node shaped
  rw [Argument.Shaped]
  exact shaped.1

theorem bounded_read (marks : List Mark) (kind : BoundKind) {bound : TypeExpression}
    (read : ∀ᶠ depth in Filter.atTop, bound.ReadAt depth [] []) :
    ∀ᶠ depth in Filter.atTop, (Argument.bounded marks kind bound).ReadAt depth := by
  filter_upwards [read, marks_read marks] with depth accepts each
  intro rest ends
  have limited := bounded_accepts kind (accepts rest ends.stops)
  rw [Argument.text]
  refine accepts_choice (accepts_shape (wildcard_accepts each limited) ?_)
  rintro node ⟨wildcard, front, _, parts, inner, last, rfl, shaped⟩
  rw [Argument.Shaped]
  exact ⟨wildcard, front ++ inner, last, by rw [parts, List.append_assoc], shaped⟩

mutual

-- Annotations and dimensions gather on the way to the innermost type, as they do in its shape.
theorem type_read : ∀ (type : TypeExpression) (marks : List Mark) (dimensions : List (List Mark)),
    ∀ᶠ depth in Filter.atTop, type.ReadAt depth marks dimensions
  | .basic type, marks, dimensions => by
      obtain ⟨whole, nonempty⟩ := basic_word type
      refine eventually_shallower 2 ?_
      filter_upwards [surroundings_read marks dimensions] with depth ⟨each, eachInner⟩
      intro rest stops
      rw [TypeExpression.textWith, TypeExpression.ShapedWith]
      exact type_accepts (word_token whole nonempty)
        (fun rest => next_avoids_fewer (word_apart whole nonempty rest) (by simp))
        (basic_roleless type) (fun rest stops => basic_accepts _ type stops.1) each eachInner stops
  | .named type, marks, dimensions => by
      refine eventually_shallower 2 ?_
      filter_upwards [surroundings_read marks dimensions, class_type_read type]
        with depth ⟨each, eachInner⟩ grows
      intro rest stops
      rw [TypeExpression.textWith, TypeExpression.ShapedWith]
      exact type_accepts (class_token type)
        (fun rest => next_avoids_fewer (class_apart type rest) (by simp))
        (class_roleless type) (fun rest stops => class_accepts grows stops) each eachInner stops
  | .array element own, marks, dimensions => by
      filter_upwards [type_read element marks (own :: dimensions)] with depth read
      intro rest stops
      rw [TypeExpression.textWith, TypeExpression.ShapedWith]
      exact read rest stops
  | .annotated mark type, marks, dimensions => by
      filter_upwards [type_read type (marks ++ [mark]) dimensions] with depth read
      intro rest stops
      rw [TypeExpression.textWith, TypeExpression.ShapedWith]
      exact read rest stops

theorem class_type_read : ∀ type : ClassType, ∀ᶠ depth in Filter.atTop,
    ∀ rest, Avoids Grammar.isWordPart rest → ClassGrows depth type.text rest type.Shaped
  | .simple name arguments => by
      filter_upwards [applied_read arguments] with depth each
      intro rest stop
      rw [ClassType.text, ClassType.Shaped]
      exact applied_grows (fun rest => simple_grows depth name) each stop
  | .member outer marks name arguments => by
      filter_upwards [class_type_read outer, marks_read marks, applied_read arguments]
        with depth grows eachMark each
      intro rest stop
      rw [ClassType.text, ClassType.Shaped]
      exact applied_grows (fun rest => member_grows grows eachMark) each stop

theorem applied_read : ∀ arguments : Option (List Argument), ∀ᶠ depth in Filter.atTop,
    ∀ list, arguments = some list → ∀ given ∈ list, given.ReadAt depth
  | none => by simp
  | some arguments => by
      filter_upwards [arguments_read arguments] with depth each
      rintro _ ⟨⟩
      exact each

theorem arguments_read : ∀ arguments : List Argument, ∀ᶠ depth in Filter.atTop,
    ∀ given ∈ arguments, given.ReadAt depth
  | [] => by simp
  | first :: arguments => by
      filter_upwards [argument_read first, arguments_read arguments] with depth here later
      exact List.forall_mem_cons.mpr ⟨here, later⟩

theorem argument_read : ∀ given : Argument, ∀ᶠ depth in Filter.atTop, given.ReadAt depth
  | .exact type => exact_read (type_read type [] [])
  | .wildcard marks => wildcard_read marks
  | .bounded marks kind bound => bounded_read marks kind (type_read bound [] [])

end

end Reading

section Markers

variable {rest : Text} {name : Identifier}

theorem qualified_name_accepts (name : Identifier) (stops : Stops ['/', '(', '.'] rest) :
    Accepts Grammar.style Grammar.qualifiedName name.text rest fun _ => True := by
  have word := identifier_accepts name "identifier" List.not_mem_nil stops.1
  have noDot : Rejects Grammar.style (mark ".") rest :=
    mark_rejects (c := '.') "." rfl (next_avoids_fewer stops.2 (by simp))
  refine accepts_imp (accepts_grow (word_token name.word name.nonempty rest) (grows_start word)
    (Nat.zero_le _) fun suffix member => ?_) fun _ _ => trivial
  rw [List.mem_singleton.mp member]
  exact rejects_both noDot

theorem no_interface_append (free : ¬ "interface".toList <+: name.text)
    (stop : Avoids Grammar.isWordPart rest) : ¬ "interface".toList <+: name.text ++ rest := by
  intro found
  have start := List.prefix_append name.text rest
  rcases List.prefix_or_prefix_of_prefix found start with inside | ⟨more, same⟩
  · exact free inside
  · cases more with
    | nil => exact free ⟨[], by rw [← same]; simp⟩
    | cons c more =>
        rw [← same, List.prefix_append_right_inj] at found
        obtain ⟨behind, rfl⟩ := found
        have parts : ∀ d ∈ "interface".toList, Grammar.isWordPart d = true :=
          each_of_all (by decide)
        have part := parts c (by rw [← same]; simp)
        simp [stop c rfl] at part

theorem annotation_mark_accepts (free : ¬ "interface".toList <+: name.text)
    (stop : Avoids Grammar.isWordPart rest) :
    Accepts Grammar.style Grammar.annotationMark ['@'] (name.text ++ rest) fun _ => True := by
  have longer : ¬ "@interface".toList <+: '@' :: (name.text ++ rest) := by
    rw [show "@interface".toList = '@' :: "interface".toList from rfl, List.prefix_cons_inj]
    exact no_interface_append free stop
  have noType : Rejects Grammar.style
      (leaf "@interface" false (lengthIfStarts "@interface")) ('@' :: (name.text ++ rest)) :=
    rejects_leaf (avoids_cons rfl _) (by simpa [lengthIfStarts] using longer)
  have sign := accepts_both (accepts_absent noType) (mark_accepts "@" rfl rfl (name.text ++ rest))
  exact accepts_imp sign fun _ _ => trivial

theorem marker_accepts (depth : Nat) (free : ¬ "interface".toList <+: name.text)
    (stops : Stops ['/', '(', '.'] rest) :
    Accepts Grammar.style (run grammar (depth + 1) .tag) ('@' :: name.text) rest
      (Single (TagShaped ('@' :: name.text))) := by
  have sign := annotation_mark_accepts free stops.1
  have called := accepts_field "name" (qualified_name_accepts name stops)
  have next : NextAvoids ['/', '('] rest := next_avoids_fewer stops.2 (by simp)
  have noBracket : Rejects Grammar.style (mark "(") (rest.dropWhile Grammar.isBlank) :=
    mark_rejects "(" rfl (next_avoids_token next)
  have noArguments : Rejects Grammar.style
      (field "arguments" (Grammar.annotationArguments (run grammar depth))) rest := by
    refine rejects_field (rejects_gap loose_node (rejects_node (next_token next (by simp)) ?_))
    unfold Grammar.inParens
    exact rejects_under (rejects_both noBracket)
  have token : Avoids Grammar.style.startsTrivia ('@' :: (name.text ++ rest)) := avoids_cons rfl _
  have noAnnotation : Rejects Grammar.style (Syntax.Parser.node "annotation" (both Grammar.annotationMark
      (both (field "name" Grammar.qualifiedName)
        (field "arguments" (Grammar.annotationArguments (run grammar depth))))))
      ('@' :: (name.text ++ rest)) :=
    rejects_node token (rejects_behind sign (rejects_behind called noArguments))
  refine accepts_later noAnnotation (accepts_choice (accepts_shape
    (accepts_node token (accepts_both sign called)) ?_))
  rintro node ⟨covers, -⟩
  exact ⟨by simp [covers.kind, annotationKinds], covers.text⟩

def Mark.marker (name : Identifier) (free : ¬ "interface".toList <+: name.text) : Mark where
  body := name.text
  accepted := eventually_shallower 1
    (Filter.Eventually.of_forall fun depth _ stops => marker_accepts depth free stops)

end Markers

section SimpleNames

/-- The node of a type has the simple name of the type, also with comments in it, and the grammar reads
the text of the type as such a node. -/
theorem type_names_simple (type : TypeExpression) :
    (∀ node, type.Shaped node → typeName node = type.simpleName) ∧
      (∀ node, CommentsApart node → type.Shaped (withoutComments node) →
        typeName node = type.simpleName) ∧
      ∀ᶠ depth in Filter.atTop, ∀ (input : Syntax.Input) (rest : Text),
        input.style = Grammar.style → input.rest = type.text ++ rest → Stops typeStops rest →
          ∃ node, run grammar depth .type input = some ([node], input.advance type.text.length) ∧
            type.Shaped node := by
  have named : ∀ node, type.Shaped node → typeName node = type.simpleName :=
    fun node shaped => (type_denotes type [] [] node shaped).1
  refine ⟨named, fun node apart shaped => ?_, ?_⟩
  · rw [← type_name_without apart]
    exact named _ shaped
  · filter_upwards [type_read type [] []] with depth read
    intro input rest styled begins stops
    obtain ⟨_, result, node, rfl, shaped⟩ := read rest stops input styled begins
    exact ⟨node, result, shaped⟩

/-- An annotated array of a class within a generic class, which is named within another. -/
def entryArray : TypeExpression :=
  let nonNull : Identifier := ⟨"NonNull".toList, by decide, by decide, by decide⟩
  let util : Identifier := ⟨"util".toList, by decide, by decide, by decide⟩
  let map : Identifier := ⟨"Map".toList, by decide, by decide, by decide⟩
  let entry : Identifier := ⟨"Entry".toList, by decide, by decide, by decide⟩
  let key : Identifier := ⟨"K".toList, by decide, by decide, by decide⟩
  let arguments : List Argument :=
    [.bounded [] .super (.named (.simple key none)), .exact (.array (.basic .int) [])]
  .annotated (.marker nonNull (by decide)) (.array (.named
    (.member (.member (.simple util none) [] map (some arguments)) [] entry none)) [])

def commentedArray : Node :=
  .mk { kind := "array_type" } [
    .mk { kind := "integral_type", field := some "element", text := "int".toList } [],
    .mk { kind := "block_comment" } [],
    .mk { kind := "dimensions", field := some "dimensions" } []]

theorem entry_array_named :
    entryArray.text = "@NonNull util.Map<? super K,int[]>.Entry[]".toList ∧
      (∃ node, entryArray.Shaped node ∧ typeName node = "Entry") ∧
      CommentsApart commentedArray ∧ typeName commentedArray = "int" := by
  have written : entryArray.text = "@NonNull util.Map<? super K,int[]>.Entry[]".toList := by
    decide +kernel
  obtain ⟨named, -, read⟩ := type_names_simple entryArray
  obtain ⟨depth, here⟩ := read.exists
  obtain ⟨node, -, shaped⟩ := here { rest := entryArray.text, style := Grammar.style } []
    rfl (by simp) ⟨avoids_nil _, avoids_nil _⟩
  have apart : CommentsApart commentedArray := by decide +kernel
  have bare : (TypeExpression.array (.basic .int) []).Shaped (withoutComments commentedArray) := by
    simp only [TypeExpression.Shaped, TypeExpression.ShapedWith]
    exact ⟨⟨rfl, rfl⟩, _, _, rfl, rfl, ⟨rfl, rfl, rfl⟩, rfl, rfl⟩
  refine ⟨written, ⟨node, shaped, ?_⟩, apart, ?_⟩
  · rw [named node shaped]
    rfl
  · rw [(type_names_simple (.array (.basic .int) [])).2.1 commentedArray apart bare]
    rfl

end SimpleNames

end PatternInspector.Java
