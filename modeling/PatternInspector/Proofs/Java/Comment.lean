import PatternInspector.Java.Parse
import PatternInspector.Proofs.Java.Declaration

/-!
Comments in the trees that classes are read from. Most readers choose nodes by their role or their
kind and pass over comments. A few choose by position, the first or last or every named child, and
take a comment that stands there for a type. Apart from such a place comments have no influence.
-/
namespace PatternInspector.Java

open PatternInspector.Syntax (Node)

section Comments

abbrev isComment : Node → Bool := Node.isCommentOf ["line_comment", "block_comment"]

abbrev withoutComments (node : Node) : Node := node.without isComment

theorem comment_kinds {node : Node} (comment : isComment node = true) :
    node.kind = "line_comment" ∨ node.kind = "block_comment" := by
  simpa using Node.comment_kind comment

theorem field_text_without (node : Node) (name : String) :
    fieldText (withoutComments node) name = fieldText node name := by
  rw [fieldText, fieldText, Node.field_without]
  cases node.field? name with
  | none => rfl
  | some child => simp

end Comments

section Positions

def superclassNode (node : Node) : Option Node :=
  (node.field? "superclass").bind fun superclass =>
    superclass.namedChildren.find? fun child => child.kind != "annotation"

def listedNodes (node : Node) : List Node :=
  ((node.childOf? ["type_list"]).map Node.namedChildren).getD []

def extendedNode (node : Node) : Option Node :=
  (node.childOf? ["extends_interfaces"]).bind fun extended => (listedNodes extended).head?

def spreadNode (node : Node) : Option Node :=
  node.namedChildren.find? fun child => !(["modifiers", "variable_declarator"].contains child.kind)

def annotatedNode (node : Node) : Option Node :=
  (node.children.filter fun child =>
    child.label.isNamed && !annotationKinds.contains child.kind).getLast?

def keywordNodes (node : Node) : List Node :=
  node.children.filter fun child => !annotationKinds.contains child.kind && !child.label.isNamed

/-- The nodes that are read at a node for the position they are in. -/
def readByPosition (node : Node) : List Node :=
  match node.kind with
  | "class_declaration" =>
      (superclassNode node).toList ++ ((node.field? "interfaces").map listedNodes).getD []
  | "interface_declaration" => (extendedNode node).toList
  | "spread_parameter" => (spreadNode node).toList
  | "annotated_type" => (annotatedNode node).toList
  | "modifiers" => keywordNodes node
  | _ => []

/-- No comment of the tree is in a position where something is read. -/
def CommentsApart (root : Node) : Prop :=
  ∀ node ∈ root.walk, ∀ part ∈ readByPosition node, isComment part = false

instance (root : Node) : Decidable (CommentsApart root) :=
  inferInstanceAs (Decidable
    (∀ node ∈ root.walk, ∀ part ∈ readByPosition node, isComment part = false))

variable {node : Node}

theorem CommentsApart.child {child : Node} (apart : CommentsApart node)
    (member : child ∈ node.children) : CommentsApart child :=
  fun inner below => apart inner (Node.mem_walk_child member below)

theorem CommentsApart.found {child : Node} {chosen : Node → Bool} (apart : CommentsApart node)
    (found : node.children.find? chosen = some child) : CommentsApart child :=
  apart.child (List.mem_of_find?_eq_some found)

theorem CommentsApart.named {child : Node} (apart : CommentsApart node)
    (member : child ∈ node.namedChildren) : CommentsApart child :=
  apart.child (List.mem_filter.mp member).1

theorem CommentsApart.here (apart : CommentsApart node) :
    ∀ part ∈ readByPosition node, isComment part = false :=
  apart node node.self_mem_walk

end Positions

section Types

theorem type_names_map (nodes : List Node) :
    typeNames nodes = nodes.map fun node => (node, typeName node) := by
  induction nodes with
  | nil => rfl
  | cons node rest ih => rw [typeNames, ih, List.map_cons]

theorem parts_find (chosen : Node → Bool) (nodes : List Node) :
    ((typeNames nodes).find? fun part => chosen part.1).map (·.2) =
      (nodes.find? chosen).map typeName := by
  rw [type_names_map, List.find?_map, Option.map_map]
  rfl

theorem parts_last (chosen : Node → Bool) (nodes : List Node) :
    ((typeNames nodes).filter fun part => chosen part.1).getLast? =
      (nodes.filter chosen).getLast?.map fun node => (node, typeName node) := by
  rw [type_names_map, List.filter_map, List.getLast?_map]
  rfl

def nameSource (node : Node) : Option Node :=
  match node.kind with
  | "scoped_type_identifier" => (node.children.filter (·.kind == "type_identifier")).getLast?
  | "generic_type" => node.childOf? ["type_identifier", "scoped_type_identifier"]
  | "array_type" => node.field? "element"
  | "annotated_type" => annotatedNode node
  | _ => none

theorem type_name_identifier {node : Node} (identifier : node.kind = "type_identifier") :
    typeName node = node.text := by
  cases node
  simp only [typeName, nameFromParts, identifier]

theorem scoped_name (children : List Node) :
    ((typeNames children).filter fun part => part.1.kind == "type_identifier").getLast?.map
        (·.1.text) =
      (children.filter (·.kind == "type_identifier")).getLast?.map typeName := by
  rw [parts_last (·.kind == "type_identifier"), Option.map_map]
  refine Option.map_congr fun child last => ?_
  have identifier := (List.mem_filter.mp (List.mem_of_getLast? last)).2
  exact (type_name_identifier (by simpa using identifier)).symm

/-- A type is named as the child it takes its name from, or as if it had no parts. -/
theorem type_name_source (node : Node) :
    typeName node = optionalTypeName (nameFromParts node []) (nameSource node) := by
  cases node with
  | mk label children =>
      rw [typeName]
      unfold nameSource nameFromParts
      split <;> rename_i same <;> simp only [same]
      case h_6 =>
        rw [scoped_name]
        rfl
      case h_7 =>
        rw [parts_find fun part => ["type_identifier", "scoped_type_identifier"].contains part.kind]
        rfl
      case h_8 =>
        rw [parts_find (Node.hasField "element")]
        rfl
      case h_9 =>
        rw [lastName, parts_last fun part =>
          part.label.isNamed && !annotationKinds.contains part.kind, Option.map_map]
        rfl
      all_goals rfl

theorem name_source_mem {node child : Node} (source : nameSource node = some child) :
    child ∈ node.children := by
  unfold nameSource at source
  split at source
  · exact (List.mem_filter.mp (List.mem_of_getLast? source)).1
  · exact List.mem_of_find?_eq_some source
  · exact List.mem_of_find?_eq_some source
  · exact (List.mem_filter.mp (List.mem_of_getLast? source)).1
  · cases source

end Types

section TypesKept

variable {node : Node}

theorem annotated_without (kept : ∀ part, annotatedNode node = some part → isComment part = false) :
    annotatedNode (withoutComments node) = (annotatedNode node).map withoutComments :=
  Node.last_without (fun _ _ => by simp) kept

theorem name_source_without (apart : CommentsApart node) :
    nameSource (withoutComments node) = (nameSource node).map withoutComments := by
  unfold nameSource
  rw [Node.kind_without]
  split
  · refine Node.last_without (fun _ _ => by simp) fun child last => ?_
    have identifier : ["type_identifier"].contains child.kind = true := by
      simpa using (List.mem_filter.mp (List.mem_of_getLast? last)).2
    exact Node.chosen_kind_kept identifier (by decide)
  · exact Node.child_without _ node (by decide)
  · exact Node.field_without _ node "element"
  · rename_i annotated
    refine annotated_without fun part last => apart.here part ?_
    simp [readByPosition, annotated, last]
  · rfl

theorem type_name_without :
    CommentsApart node → typeName (withoutComments node) = typeName node := by
  induction node using Node.tree_induction with
  | step label children ih =>
      intro apart
      rw [type_name_source, type_name_source, name_source_without apart]
      have alone : nameFromParts (withoutComments (.mk label children)) [] =
          nameFromParts (.mk label children) [] := rfl
      rw [alone]
      cases source : nameSource (.mk label children) with
      | none => rfl
      | some child =>
          have member := name_source_mem source
          exact ih child member (apart.child member)

/-- Names of what a choice finds, where the choice does not depend on comments. -/
theorem optional_type_without {found : Option Node} (fallback : String)
    (apart : ∀ child, found = some child → CommentsApart child) :
    optionalTypeName fallback (found.map withoutComments) = optionalTypeName fallback found := by
  cases found with
  | none => rfl
  | some child => exact type_name_without (apart child rfl)

theorem field_type_without (apart : CommentsApart node) (fallback name : String) :
    optionalTypeName fallback ((withoutComments node).field? name) =
      optionalTypeName fallback (node.field? name) := by
  rw [Node.field_without]
  exact optional_type_without fallback fun _ found => apart.found found

end TypesKept

section MembersKept

variable {node : Node}

theorem keywords_without (kept : ∀ part ∈ keywordNodes node, isComment part = false) :
    keywordNodes (withoutComments node) = (keywordNodes node).map withoutComments :=
  Node.filter_without (fun _ _ => by simp) fun child member chosen =>
    kept child (List.mem_filter.mpr ⟨member, chosen⟩)

theorem annotations_without (node : Node) :
    ((withoutComments node).children.filter fun child => annotationKinds.contains child.kind) =
      (node.children.filter fun child => annotationKinds.contains child.kind).map
        withoutComments :=
  Node.filter_without (fun _ _ => by simp) fun _ _ chosen =>
    Node.chosen_kind_kept chosen (by decide)

theorem modifiers_without (apart : CommentsApart node) :
    modifiersOf (withoutComments node) = modifiersOf node := by
  unfold modifiersOf
  rw [Node.child_without _ node (by decide)]
  cases found : node.childOf? ["modifiers"] with
  | none => rfl
  | some modifiers =>
      have kind : modifiers.kind = "modifiers" := by simpa using List.find?_some found
      have keywords := keywords_without fun part member =>
        (apart.found found).here part (by simpa [readByPosition, kind] using member)
      unfold keywordNodes at keywords
      have sameKind : Node.kind ∘ withoutComments = Node.kind :=
        funext (Node.kind_without isComment)
      simp only [Option.map_some, keywords, annotations_without, List.map_map, sameKind]
      simp only [Function.comp_def, field_text_without]

theorem spread_without (kept : ∀ part, spreadNode node = some part → isComment part = false) :
    spreadNode (withoutComments node) = (spreadNode node).map withoutComments :=
  Node.find_named_without (fun _ _ => by simp) kept

theorem spread_type_without (apart : CommentsApart node) (spread : node.kind = "spread_parameter") :
    optionalTypeName "unknown" (spreadNode (withoutComments node)) =
      optionalTypeName "unknown" (spreadNode node) := by
  rw [spread_without fun part found => apart.here part (by simp [readByPosition, spread, found])]
  exact optional_type_without _ fun child found => apart.named (List.mem_of_find?_eq_some found)

theorem spread_name_without (node : Node) :
    ((withoutComments node).childOf? ["variable_declarator"]).map (fieldText · "name") =
      (node.childOf? ["variable_declarator"]).map (fieldText · "name") := by
  rw [Node.child_without _ node (by decide), Option.map_map]
  exact congrArg (Option.map · _) (funext fun child => field_text_without child "name")

theorem parameter_without (apart : CommentsApart node) :
    parameterOf? (withoutComments node) = parameterOf? node := by
  unfold parameterOf?
  rw [Node.kind_without]
  split
  · rw [field_text_without, field_type_without apart]
  · rename_i spread
    have type := spread_type_without apart spread
    unfold spreadNode at type
    simp only [spread_name_without, type]
  · rfl

theorem parameter_comment (comment : isComment node = true) : parameterOf? node = none := by
  rcases comment_kinds comment with same | same
  · simp [parameterOf?, same]
  · simp [parameterOf?, same]

theorem parameters_without (apart : CommentsApart node) :
    parametersOf (withoutComments node) = parametersOf node := by
  unfold parametersOf
  rw [Node.field_without]
  cases found : node.field? "parameters" with
  | none => rfl
  | some parameters =>
      exact Node.filter_map_named_without
        (fun child member => parameter_without ((apart.found found).named member))
        fun _ comment => parameter_comment comment

theorem method_without (apart : CommentsApart node) (inInterface : Bool) :
    methodOf inInterface (withoutComments node) = methodOf inInterface node := by
  have body : ((withoutComments node).field? "body").isNone = (node.field? "body").isNone := by
    rw [Node.field_without, Option.isNone_map]
  simp only [methodOf, modifiers_without apart, parameters_without apart, field_text_without,
    field_type_without apart, body, Node.line_without]

theorem constructor_without (apart : CommentsApart node) (className : String) :
    constructorOf className (withoutComments node) = constructorOf className node := by
  simp only [constructorOf, modifiers_without apart, parameters_without apart, Node.line_without]

theorem field_of_without (apart : CommentsApart node) (inInterface : Bool) (declarator : Node) :
    fieldOf inInterface (withoutComments node) (withoutComments declarator) =
      fieldOf inInterface node declarator := by
  simp only [fieldOf, modifiers_without apart, field_type_without apart, field_text_without]

theorem fields_of_without (apart : CommentsApart node) (inInterface : Bool) :
    fieldsOf inInterface (withoutComments node) = fieldsOf inInterface node := by
  rw [fieldsOf, fieldsOf, Node.fields_without, List.map_map]
  exact List.map_congr_left fun declarator _ => field_of_without apart inInterface declarator

theorem member_method_without (apart : CommentsApart node) (inInterface : Bool)
    (className : String) :
    methodOf? inInterface className (withoutComments node) =
      methodOf? inInterface className node := by
  simp only [methodOf?, Node.kind_without, method_without apart, constructor_without apart]

theorem method_comment (comment : isComment node = true) (inInterface : Bool)
    (className : String) : methodOf? inInterface className node = none := by
  rcases comment_kinds comment with same | same
  · simp [methodOf?, same]
  · simp [methodOf?, same]

end MembersKept

section ClassesKept

variable {node : Node}

theorem methods_without (apart : CommentsApart node) (inInterface : Bool) (className : String) :
    (membersOf (withoutComments node)).filterMap (methodOf? inInterface className) =
      (membersOf node).filterMap (methodOf? inInterface className) := by
  unfold membersOf
  rw [Node.field_without]
  cases found : node.field? "body" with
  | none => rfl
  | some body =>
      exact Node.filter_map_named_without
        (fun child member =>
          member_method_without ((apart.found found).named member) inInterface className)
        fun _ comment => method_comment comment inInterface className

theorem member_fields_without (apart : CommentsApart node) (inInterface : Bool) :
    ((membersOf (withoutComments node)).filter isFieldDeclaration).flatMap (fieldsOf inInterface) =
      ((membersOf node).filter isFieldDeclaration).flatMap (fieldsOf inInterface) := by
  unfold membersOf
  rw [Node.field_without]
  cases found : node.field? "body" with
  | none => rfl
  | some body =>
      have declarations : (withoutComments body).namedChildren.filter isFieldDeclaration =
          (body.namedChildren.filter isFieldDeclaration).map withoutComments :=
        Node.filter_named_without (fun _ _ => by simp [isFieldDeclaration])
          fun _ _ chosen => Node.chosen_kind_kept chosen (by decide)
      simp only [Option.map_some, Option.getD_some, declarations, List.flatMap_map]
      refine List.flatMap_congr fun child member => ?_
      exact fields_of_without ((apart.found found).named (List.mem_filter.mp member).1) inInterface

theorem superclass_without
    (kept : ∀ part, superclassNode node = some part → isComment part = false) :
    superclassNode (withoutComments node) = (superclassNode node).map withoutComments := by
  unfold superclassNode at kept ⊢
  rw [Node.field_without]
  cases found : node.field? "superclass" with
  | none => rfl
  | some superclass =>
      rw [found] at kept
      exact Node.find_named_without (fun _ _ => by simp) kept

theorem listed_without (node : Node) :
    listedNodes (withoutComments node) =
      ((listedNodes node).filter (!isComment ·)).map withoutComments := by
  unfold listedNodes
  rw [Node.child_without _ node (by decide)]
  cases node.childOf? ["type_list"] with
  | none => rfl
  | some types => exact Node.named_children_without isComment types

theorem extended_without (kept : ∀ part, extendedNode node = some part → isComment part = false) :
    extendedNode (withoutComments node) = (extendedNode node).map withoutComments := by
  unfold extendedNode at kept ⊢
  rw [Node.child_without _ node (by decide)]
  cases found : node.childOf? ["extends_interfaces"] with
  | none => rfl
  | some extended =>
      rw [found] at kept
      simp only [Option.map_some, Option.bind_some] at kept ⊢
      rw [listed_without, List.head?_map]
      cases list : listedNodes extended with
      | nil => rfl
      | cons first rest =>
          have stays : isComment first = false := kept first (by rw [list]; rfl)
          simp [stays]

theorem listed_types_nodes (node : Node) : listedTypes node = (listedNodes node).map typeName := by
  unfold listedTypes listedNodes
  cases node.childOf? ["type_list"] with
  | none => rfl
  | some types => rfl

theorem CommentsApart.listed {part : Node} (apart : CommentsApart node)
    (member : part ∈ listedNodes node) : CommentsApart part := by
  unfold listedNodes at member
  cases found : node.childOf? ["type_list"] with
  | none => simp [found] at member
  | some types =>
      rw [found] at member
      exact (apart.found found).named member

theorem listed_types_without (apart : CommentsApart node)
    (kept : ∀ part ∈ listedNodes node, isComment part = false) :
    listedTypes (withoutComments node) = listedTypes node := by
  have all : (listedNodes node).filter (!isComment ·) = listedNodes node :=
    List.filter_eq_self.mpr fun part member => by simp [kept part member]
  rw [listed_types_nodes, listed_types_nodes, listed_without, all, List.map_map]
  exact List.map_congr_left fun part member => type_name_without (apart.listed member)

def baseNode (node : Node) (isInterface : Bool) : Option Node :=
  if isInterface then extendedNode node else superclassNode node

theorem base_of_node (node : Node) (isInterface : Bool) :
    baseOf node isInterface = (baseNode node isInterface).map typeName := by
  cases isInterface with
  | true =>
      simp only [baseOf, baseNode, extendedNode, if_true, listed_types_nodes, List.head?_map,
        Option.map_bind]
      rfl
  | false =>
      simp only [baseOf, baseNode, superclassNode, Bool.false_eq_true, if_false, Option.map_bind]
      rfl

theorem CommentsApart.base {part : Node} {isInterface : Bool} (apart : CommentsApart node)
    (found : baseNode node isInterface = some part) : CommentsApart part := by
  cases isInterface with
  | true =>
      obtain ⟨extended, clause, first⟩ := Option.bind_eq_some_iff.mp found
      exact (apart.found clause).listed (List.mem_of_head? first)
  | false =>
      obtain ⟨superclass, clause, named⟩ := Option.bind_eq_some_iff.mp found
      exact (apart.found clause).named (List.mem_of_find?_eq_some named)

theorem base_without (apart : CommentsApart node) {isInterface : Bool}
    (kept : ∀ part, baseNode node isInterface = some part → isComment part = false) :
    baseOf (withoutComments node) isInterface = baseOf node isInterface := by
  have same : baseNode (withoutComments node) isInterface =
      (baseNode node isInterface).map withoutComments := by
    cases isInterface with
    | true => exact extended_without kept
    | false => exact superclass_without kept
  rw [base_of_node, base_of_node, same, Option.map_map]
  exact Option.map_congr fun part found => type_name_without (apart.base found)

theorem interfaces_without (apart : CommentsApart node)
    (kept : ∀ part ∈ ((node.field? "interfaces").map listedNodes).getD [], isComment part = false) :
    (((withoutComments node).field? "interfaces").map listedTypes).getD [] =
      ((node.field? "interfaces").map listedTypes).getD [] := by
  rw [Node.field_without]
  cases found : node.field? "interfaces" with
  | none => rfl
  | some interfaces =>
      rw [found] at kept
      exact listed_types_without (apart.found found) kept

theorem class_read (apart : CommentsApart node) (kind : node.kind = "class_declaration") :
    (∀ part, superclassNode node = some part → isComment part = false) ∧
      ∀ part ∈ ((node.field? "interfaces").map listedNodes).getD [], isComment part = false := by
  have read := apart.here
  simp only [readByPosition, kind, List.mem_append, Option.mem_toList] at read
  exact ⟨fun part found => read part (Or.inl found), fun part member => read part (Or.inr member)⟩

theorem interface_read (apart : CommentsApart node) (kind : node.kind = "interface_declaration") :
    ∀ part, extendedNode node = some part → isComment part = false :=
  fun part found => apart.here part (by simp [readByPosition, kind, found])

theorem class_without (apart : CommentsApart node) (declared : isTypeDeclaration node = true)
    (outer : Option String) : classOf outer (withoutComments node) = classOf outer node := by
  have methods := methods_without apart
  have fields := member_fields_without apart
  unfold membersOf at methods fields
  have declares : node.kind = "class_declaration" ∨ node.kind = "interface_declaration" := by
    simpa [isTypeDeclaration] using declared
  have base : baseOf (withoutComments node) (node.kind == "interface_declaration") =
      baseOf node (node.kind == "interface_declaration") := by
    refine base_without apart ?_
    rcases declares with kind | kind
    · rw [kind]
      exact (class_read apart kind).1
    · rw [kind]
      exact interface_read apart kind
  have interfaces : (if (node.kind == "interface_declaration") = true then [] else
        (((withoutComments node).field? "interfaces").map listedTypes).getD []) =
      if (node.kind == "interface_declaration") = true then [] else
        ((node.field? "interfaces").map listedTypes).getD [] := by
    rcases declares with kind | kind
    · rw [interfaces_without apart (class_read apart kind).2]
    · simp [kind]
  simp only [classOf, Node.kind_without, field_text_without, modifiers_without apart, methods, fields,
    base, interfaces, Node.line_without]

theorem type_declaration_without (node : Node) :
    isTypeDeclaration (withoutComments node) = isTypeDeclaration node := by
  rw [isTypeDeclaration, isTypeDeclaration, Node.kind_without]

theorem enclosing_name_without (ancestors : List Node) :
    enclosingName (ancestors.map withoutComments) = enclosingName ancestors := by
  induction ancestors with
  | nil => rfl
  | cons parent above ih =>
      rw [List.map_cons, enclosingName, enclosingName, type_declaration_without, field_text_without, ih]

theorem classes_of_visits (root : Node) :
    classes root = root.visits.flatMap fun visit =>
      if isTypeDeclaration visit.node then [classOf (enclosingName visit.ancestors) visit.node]
      else [] := by
  rw [classes, ← Syntax.flat_map_filter, List.map_eq_flatMap]

theorem classes_without {root : Node} (apart : CommentsApart root) :
    classes (withoutComments root) = classes root := by
  rw [classes_of_visits, classes_of_visits]
  apply Node.flat_map_visits_without fun _ => Node.comment_children
  · intro visit comment
    rcases comment_kinds comment with same | same
    · simp [isTypeDeclaration, same]
    · simp [isTypeDeclaration, same]
  · intro visit member _ _
    have here : CommentsApart visit.node := fun inner below =>
      apart inner (Node.mem_walk_trans below member)
    simp only [Node.Visit.without, type_declaration_without, enclosing_name_without]
    split
    next declared => rw [class_without here declared]
    next => rfl

end ClassesKept

section Influence

/-- Comments that are apart from what is read by position change no class and no detection. -/
theorem comments_apart_unread (root : Node) (apart : CommentsApart root) :
    classes (withoutComments root) = classes root ∧
      ∀ rules, detect rules (classes (withoutComments root)) = detect rules (classes root) := by
  have same := classes_without apart
  refine ⟨same, fun rules => ?_⟩
  rw [same]

def commentedClass : Node :=
  (parse "class A extends B /* b */ \x7b // c\nvoid f(/* d */ D... x) \x7b\x7d \x7d".toList
    ).toOption.getD default

theorem commented_class_unread :
    CommentsApart commentedClass ∧ (commentedClass.walk.filter isComment).length = 3 ∧
      (classes commentedClass).map (·.extends') = [some "B"] ∧
      classes (withoutComments commentedClass) = classes commentedClass := by
  -- one evaluation, since each would parse the text again
  have facts : CommentsApart commentedClass ∧ (commentedClass.walk.filter isComment).length = 3 ∧
      (classes commentedClass).map (·.extends') = [some "B"] := by decide +kernel
  exact ⟨facts.1, facts.2.1, facts.2.2, (comments_apart_unread commentedClass facts.1).1⟩

def commentedTypes : Node :=
  (parse "class A extends /* c */ B implements C, /* d */ E \x7b\x7d".toList).toOption.getD default

-- The first named child behind extends is a comment, and so is one of the listed types.
theorem comments_read_as_types :
    (∀ node ∈ commentedTypes.walk, node.label.isError = false) ∧
      classes (withoutComments commentedTypes) ≠ classes commentedTypes := by
  have facts : (∀ node ∈ commentedTypes.walk, node.label.isError = false) ∧
      (classes commentedTypes).map (fun model => (model.extends', model.implements)) =
        [(some "/* c */", ["C", "/* d */", "E"])] ∧
      (classes (withoutComments commentedTypes)).map
        (fun model => (model.extends', model.implements)) = [(some "B", ["C", "E"])] := by
    decide +kernel
  obtain ⟨faultless, read, meant⟩ := facts
  refine ⟨faultless, fun same => ?_⟩
  rw [same, read] at meant
  simp at meant

end Influence

end PatternInspector.Java
