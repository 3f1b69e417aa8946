import PatternInspector.Proofs.Syntax.Visit
import PatternInspector.TypeScript.Parse

/-!
Comments in the trees that the style checks walk through. The checks choose nodes by their role or by
their kind, and the number of parameters leaves comments out, so a comment is never taken for anything
else. The one question about a position, whether a name is the one that a declarator declares, is
asked of the first child in a role, which stays the first among the children that stay.
-/
namespace PatternInspector.TypeScript

open PatternInspector.Syntax (Node flat_map_filter)
open PatternInspector.Syntax.Node (Visit flat_map_visits_without)

section Roles

abbrev isComment : Node → Bool := Node.isCommentOf ["comment"]

abbrev withoutComments (node : Node) : Node := node.without isComment

theorem comment_kind {node : Node} (comment : isComment node = true) : node.kind = "comment" := by
  simpa using Node.comment_kind comment

variable (node : Node)

theorem field_text_without {name : String} {α : Type} (read : Node → α)
    (same : ∀ child, read (withoutComments child) = read child) :
    ((withoutComments node).field? name).map read = (node.field? name).map read := by
  rw [Node.field_without, Option.map_map]
  congr 1
  funext child
  exact same child

theorem named_without {chosen : Node → Bool}
    (same : ∀ child, chosen (withoutComments child) = chosen child)
    (kept : ∀ child, chosen child = true → isComment child = false) :
    (withoutComments node).namedChildren.filter chosen =
      (node.namedChildren.filter chosen).map withoutComments := by
  have unchanged : chosen ∘ Node.without isComment = chosen := funext same
  rw [withoutComments, Node.named_children_without, List.filter_map, unchanged,
    Node.filter_kept fun child _ => kept child]

end Roles

section Readers

variable (node : Node)

theorem class_without : isClass (withoutComments node) = isClass node := by
  rw [isClass, isClass, Node.kind_without]

theorem function_declaration_without :
    isFunctionDeclaration (withoutComments node) = isFunctionDeclaration node := by
  rw [isFunctionDeclaration, isFunctionDeclaration, Node.kind_without]

theorem function_without : isFunction (withoutComments node) = isFunction node := by
  rw [isFunction, isFunction, function_declaration_without, Node.kind_without]

theorem method_without : isMethod (withoutComments node) = isMethod node := by
  rw [isMethod, isMethod, Node.kind_without]

theorem keyword_without : declarationKeyword? (withoutComments node) = declarationKeyword? node := by
  rw [declarationKeyword?, declarationKeyword?, Node.child_without _ node (by decide), Option.map_map]
  congr 1
  funext child
  exact child.kind_without isComment

theorem accessor_without : isAccessor (withoutComments node) = isAccessor node := by
  rw [isAccessor, isAccessor, Node.child_without _ node (by decide), Option.isSome_map]

theorem declared_name_without : declaredName? (withoutComments node) = declaredName? node := by
  rw [declaredName?, declaredName?, Node.field_without]
  cases node.field? "name" with
  | none => rfl
  | some name => simp

theorem declarators_without :
    declarators (withoutComments node) = (declarators node).map withoutComments := by
  apply named_without
  · intro child
    simp
  · intro child chosen
    apply Node.kind_kept
    rw [beq_iff_eq.mp chosen]
    decide

theorem parameters_without : parameterCount (withoutComments node) = parameterCount node := by
  rw [parameterCount, parameterCount, Node.field_without, Node.field_without]
  cases node.field? "parameters" with
  | none => simp
  | some parameters =>
      rw [Option.map_some]
      dsimp only
      rw [named_without, List.length_map]
      · intro child
        simp
      · intro child chosen
        exact Node.kind_kept (by simpa using chosen)

theorem counts_without : countsAsMethod (withoutComments node) = countsAsMethod node := by
  rw [countsAsMethod, countsAsMethod, accessor_without, method_without,
    field_text_without node _ (Node.text_without isComment)]

theorem methods_without : classMethodCount (withoutComments node) = classMethodCount node := by
  rw [classMethodCount, classMethodCount, Node.field_without]
  cases node.field? "body" with
  | none => rfl
  | some body =>
      rw [Option.map_some]
      dsimp only
      rw [named_without, List.length_map]
      · exact counts_without
      · intro child counted
        apply Node.kind_kept
        simp only [countsAsMethod, isMethod, Bool.and_eq_true, beq_iff_eq] at counted
        rw [counted.1.1]
        decide

end Readers

section Positions

-- A child that stays is the first in a role among all children or among those that stay, or neither.
theorem first_without {children : List Node} {child : Node} {index : Nat} (chosen : Node → Bool)
    (same : ∀ child, chosen (withoutComments child) = chosen child)
    (kept : ∀ child, chosen child = true → isComment child = false)
    (here : children[index]? = some child) (stays : isComment child = false) :
    ((children.filter (!isComment ·)).map withoutComments).findIdx? chosen =
        some ((children.take index).filter (!isComment ·)).length ↔
      children.findIdx? chosen = some index := by
  induction children generalizing index with
  | nil => simp at here
  | cons first rest ih =>
      by_cases found : chosen first = true
      · have present := kept first found
        cases index with
        | zero => simp [present, found, same, List.findIdx?_cons]
        | succ index => simp [present, found, same, List.findIdx?_cons]
      · cases index with
        | zero =>
            obtain rfl : first = child := by simpa using here
            simp [stays, found, same, List.findIdx?_cons]
        | succ index =>
            have later := ih (by simpa using here)
            by_cases dropped : isComment first = true
            · simpa [dropped, found, List.findIdx?_cons] using later
            · simpa [dropped, found, same, List.findIdx?_cons] using later

variable {visit : Visit}

theorem role_without (genuine : visit.Genuine) (stays : isComment visit.node = false)
    (kind name : String) :
    (visit.without isComment).isFieldOf kind name = visit.isFieldOf kind name := by
  rw [Visit.isFieldOf, Visit.isFieldOf, Node.parent_without]
  cases above : visit.parent with
  | none => rfl
  | some parent =>
      have index : (visit.without isComment).index =
          ((parent.children.take visit.index).filter (!isComment ·)).length := by
        simp [Visit.without, above]
      have first := first_without (Node.hasField name)
        (fun child => by simp [Node.hasField]) (fun child => Node.role_kept)
        (genuine parent above) stays
      rw [← Node.children_without, ← index] at first
      have position := Bool.eq_iff_iff.mpr (beq_iff_eq.trans (first.trans beq_iff_eq.symm))
      simp only [Option.map_some, Node.kind_without, position]

end Positions

section Names

theorem misnamed_without (rule subject : String) (severity : Severity) (style : NamingStyle)
    (node : Node) :
    misnamed? rule subject severity style (withoutComments node) =
      misnamed? rule subject severity style node := by
  funext name
  simp [misnamed?]

theorem misnamed_constant_without (patterns : NamingPatterns) :
    misnamedConstant? patterns ∘ withoutComments = misnamedConstant? patterns := by
  funext declarator
  simp [misnamedConstant?, declared_name_without]

theorem styled_name_without (visit : Visit) :
    styledMethodName? (visit.without isComment) = styledMethodName? visit := by
  have node : (visit.without isComment).node = withoutComments visit.node := rfl
  have above : (visit.without isComment).parent.map Node.kind = visit.parent.map Node.kind := by
    rw [Node.parent_without, Option.map_map]
    congr 1
    funext parent
    exact parent.kind_without isComment
  rw [styledMethodName?, styledMethodName?, above, node, accessor_without, Node.field_without]
  cases visit.node.field? "name" with
  | none => rfl
  | some name => simp

theorem names_at_without (rules : NamingRules) (visit : Visit) :
    namingViolationsAt rules (visit.without isComment) = namingViolationsAt rules visit := by
  have node : (visit.without isComment).node = withoutComments visit.node := rfl
  rw [namingViolationsAt, namingViolationsAt]
  rw [styled_name_without, node, field_text_without _ _ fun child => by rw [Node.label_without],
    misnamed_without, misnamed_without, misnamed_without, class_without,
    function_declaration_without, method_without, Node.kind_without, keyword_without,
    declarators_without, List.filterMap_map, misnamed_constant_without]

theorem names_without (rules : NamingRules) (root : Node) :
    checkNames rules (withoutComments root) = checkNames rules root := by
  apply flat_map_visits_without fun _ => Node.comment_children
  · intro visit comment
    simp [namingViolationsAt, isClass, isFunctionDeclaration, isMethod, comment_kind comment]
  · intro visit _ _ _
    exact names_at_without rules visit

end Names

section Sizes

theorem callable_name_without (visit : Visit) :
    callableName (visit.without isComment) = callableName visit := by
  have node : (visit.without isComment).node = withoutComments visit.node := rfl
  rw [callableName, callableName, Node.parent_without, node, Node.field_without]
  cases visit.node.field? "name" with
  | some name => simp
  | none =>
      cases visit.parent with
      | none => rfl
      | some parent =>
          by_cases declarator : parent.kind = "variable_declarator"
          · simp [Option.filter, declarator, declared_name_without parent]
          · simp [Option.filter, declarator]

theorem too_large_without (rule : String) (severity : Severity) (node : Node) :
    tooLarge rule severity (withoutComments node) = tooLarge rule severity node := by
  funext message suggestion evidence
  rw [tooLarge, tooLarge, Node.line_without, Node.column_without]

theorem callable_without (rules : Rules) (visit : Visit) :
    callableViolations rules (visit.without isComment) = callableViolations rules visit := by
  have node : (visit.without isComment).node = withoutComments visit.node := rfl
  rw [callableViolations, callableViolations]
  rw [callable_name_without, node, parameters_without, Node.row_span_without, method_without,
    too_large_without, too_large_without]

theorem class_violations_without (rules : Rules) (node : Node) :
    classViolations rules (withoutComments node) = classViolations rules node := by
  rw [classViolations, classViolations]
  dsimp only
  rw [methods_without, too_large_without, field_text_without node _ (Node.text_without isComment)]

theorem sizes_at_without (rules : Rules) (visit : Visit) :
    sizeViolationsAt rules (visit.without isComment) = sizeViolationsAt rules visit := by
  have node : (visit.without isComment).node = withoutComments visit.node := rfl
  rw [sizeViolationsAt, sizeViolationsAt, callable_without, node, class_violations_without,
    class_without, function_without, method_without]

theorem sizes_without (rules : Rules) (root : Node) :
    checkSizes rules (withoutComments root) = checkSizes rules root := by
  apply flat_map_visits_without fun _ => Node.comment_children
  · intro visit comment
    simp [sizeViolationsAt, isClass, isFunction, isFunctionDeclaration, isMethod,
      comment_kind comment]
  · intro visit _ _ _
    exact sizes_at_without rules visit

end Sizes

section Smells

theorem declaration_without : declarationOf? ∘ withoutComments = declarationOf? := by
  funext declarator
  simp [declarationOf?, declared_name_without]

theorem sites_of_visits (root : Node) :
    declarationSites root = root.visits.flatMap fun visit =>
      if isVariableDeclaration visit.node then (declarators visit.node).filterMap declarationOf?
      else [] := by
  rw [declarationSites, flat_map_filter, ← Node.visits_nodes, List.flatMap_map]

theorem sites_without (root : Node) :
    declarationSites (withoutComments root) = declarationSites root := by
  rw [sites_of_visits, sites_of_visits]
  apply flat_map_visits_without fun _ => Node.comment_children
  · intro visit comment
    simp [isVariableDeclaration, comment_kind comment]
  · intro visit _ _ _
    have node : (visit.without isComment).node = withoutComments visit.node := rfl
    rw [node, isVariableDeclaration, isVariableDeclaration, Node.kind_without, declarators_without,
      List.filterMap_map, declaration_without]

theorem names_of_visits (root : Node) :
    usedNames root = root.visits.flatMap fun visit =>
      if isNameUse visit then [visit.node.label.text] else [] := by
  rw [usedNames, ← flat_map_filter, List.map_eq_flatMap]

theorem used_names_without (root : Node) : usedNames (withoutComments root) = usedNames root := by
  rw [names_of_visits, names_of_visits]
  apply flat_map_visits_without fun _ => Node.comment_children
  · intro visit comment
    simp [isNameUse, comment_kind comment]
  · intro visit _ genuine stays
    have node : (visit.without isComment).node = withoutComments visit.node := rfl
    rw [isNameUse, isNameUse, role_without genuine stays, node, Node.kind_without, Node.label_without]

theorem unused_without (root : Node) :
    unusedDeclarations (withoutComments root) = unusedDeclarations root := by
  rw [unusedDeclarations, unusedDeclarations, declarations, declarations, sites_without,
    used_names_without]

theorem smells_without (rules : CodeSmellRules) (root : Node) (code : Text) :
    checkSmells rules (withoutComments root) code = checkSmells rules root code := by
  rw [checkSmells, checkSmells, unused_without]

/-- Comments have no influence on a report: without them, and with all other nodes where they are, the
same violations are reported, whatever the rules are. -/
theorem comments_unread (rules : Rules) (filename : String) (code : Text) (root : Node) :
    reportOnTree rules filename code (.ok (withoutComments root)) =
      reportOnTree rules filename code (.ok root) := by
  rw [reportOnTree, reportOnTree, violations, violations, names_without, sizes_without,
    smells_without]

end Smells

end PatternInspector.TypeScript
