import Mathlib.Data.List.Basic
import PatternInspector.Proofs.Syntax.Walk

/-!
Trees with some of their nodes left out. The nodes that stay keep their labels, so whatever is
chosen by its label is chosen again, unless it is one of those left out.
-/
namespace PatternInspector.Syntax.Node

variable {β : Type}

section Walks

theorem self_mem_walk (node : Node) : node ∈ node.walk := by
  rw [walk_children]
  exact List.mem_cons_self

theorem mem_walk_child {node child inner : Node} (member : child ∈ node.children)
    (below : inner ∈ child.walk) : inner ∈ node.walk := by
  rw [walk_children]
  exact List.mem_cons_of_mem _ (List.mem_flatMap.mpr ⟨child, member, below⟩)

theorem mem_walk_trans {root node inner : Node} (below : inner ∈ node.walk)
    (member : node ∈ root.walk) : inner ∈ root.walk := by
  induction root using tree_induction with
  | step label children ih =>
      rw [walk_children] at member
      rcases List.mem_cons.mp member with rfl | deeper
      · exact below
      · obtain ⟨child, known, around⟩ := List.mem_flatMap.mp deeper
        exact mem_walk_child known (ih child known around)

end Walks

section Removal

variable (drops : Node → Bool)

mutual

/-- The tree without the nodes that are dropped, the root apart. -/
def without : Node → Node
  | .mk label children => .mk label (withoutAll children)

def withoutAll : List Node → List Node
  | [] => []
  | node :: rest => if drops node then withoutAll rest else without node :: withoutAll rest

end

theorem without_all (nodes : List Node) :
    withoutAll drops nodes = (nodes.filter (!drops ·)).map (without drops) := by
  induction nodes with
  | nil => rfl
  | cons node rest ih =>
      rw [withoutAll, ih]
      by_cases dropped : drops node = true
      · simp [dropped]
      · simp [dropped]

@[simp] theorem label_without (node : Node) : (node.without drops).label = node.label := by
  cases node
  rfl

@[simp] theorem kind_without (node : Node) : (node.without drops).kind = node.kind := by
  simp [kind]

@[simp] theorem text_without (node : Node) : (node.without drops).text = node.text := by
  simp [text]

@[simp] theorem line_without (node : Node) : (node.without drops).line = node.line := by
  simp [line]

@[simp] theorem column_without (node : Node) : (node.without drops).column = node.column := by
  simp [column]

@[simp] theorem row_span_without (node : Node) : (node.without drops).rowSpan = node.rowSpan := by
  simp [rowSpan]

theorem children_without (node : Node) :
    (node.without drops).children = (node.children.filter (!drops ·)).map (without drops) := by
  cases node with
  | mk label children => exact without_all drops children

theorem named_children_without (node : Node) :
    (node.without drops).namedChildren =
      (node.namedChildren.filter (!drops ·)).map (without drops) := by
  have byLabel : ((·.label.isNamed) ∘ without drops) = (·.label.isNamed) := by
    funext child
    simp
  rw [namedChildren, namedChildren, children_without, List.filter_map, byLabel]
  simp only [List.filter_filter, Bool.and_comm]

end Removal

section Choices

variable {drops : Node → Bool}

/-- What is found in a list is found again without the dropped items, unless it is one of them. -/
theorem find_kept {items : List Node} {chosen : Node → Bool}
    (kept : ∀ item, items.find? chosen = some item → drops item = false) :
    (items.filter (!drops ·)).find? chosen = items.find? chosen := by
  induction items with
  | nil => rfl
  | cons first rest ih =>
      by_cases here : chosen first = true
      · have stays : drops first = false := kept first (List.find?_cons_of_pos here)
        simp [stays, here]
      · have later := ih fun item found => kept item (by rw [List.find?_cons_of_neg here, found])
        by_cases dropped : drops first = true
        · simp [dropped, here, later]
        · simp [dropped, here, later]

theorem filter_kept {items : List Node} {chosen : Node → Bool}
    (kept : ∀ item ∈ items, chosen item = true → drops item = false) :
    (items.filter (!drops ·)).filter chosen = items.filter chosen := by
  rw [List.filter_filter]
  refine List.filter_congr fun item member => ?_
  by_cases here : chosen item = true
  · simp [here, kept item member here]
  · simp [here]

/-- A choice that looks at labels alone. -/
def ByLabel (chosen : Node → Bool) : Prop :=
  ∀ (drops : Node → Bool) (node : Node), chosen (node.without drops) = chosen node

theorem ByLabel.comp_without {chosen : Node → Bool} (labelled : ByLabel chosen) :
    chosen ∘ without drops = chosen :=
  funext (labelled drops)

theorem find_without {node : Node} {chosen : Node → Bool} (labelled : ByLabel chosen)
    (kept : ∀ child, node.children.find? chosen = some child → drops child = false) :
    (node.without drops).children.find? chosen =
      (node.children.find? chosen).map (without drops) := by
  rw [children_without, List.find?_map, labelled.comp_without, find_kept kept]

theorem filter_without {node : Node} {chosen : Node → Bool} (labelled : ByLabel chosen)
    (kept : ∀ child ∈ node.children, chosen child = true → drops child = false) :
    (node.without drops).children.filter chosen =
      (node.children.filter chosen).map (without drops) := by
  rw [children_without, List.filter_map, labelled.comp_without, filter_kept kept]

theorem find_named_without {node : Node} {chosen : Node → Bool} (labelled : ByLabel chosen)
    (kept : ∀ child, node.namedChildren.find? chosen = some child → drops child = false) :
    (node.without drops).namedChildren.find? chosen =
      (node.namedChildren.find? chosen).map (without drops) := by
  rw [named_children_without, List.find?_map, labelled.comp_without, find_kept kept]

theorem filter_named_without {node : Node} {chosen : Node → Bool} (labelled : ByLabel chosen)
    (kept : ∀ child ∈ node.namedChildren, chosen child = true → drops child = false) :
    (node.without drops).namedChildren.filter chosen =
      (node.namedChildren.filter chosen).map (without drops) := by
  rw [named_children_without, List.filter_map, labelled.comp_without, filter_kept kept]

theorem last_without {node : Node} {chosen : Node → Bool} (labelled : ByLabel chosen)
    (kept : ∀ child, (node.children.filter chosen).getLast? = some child → drops child = false) :
    ((node.without drops).children.filter chosen).getLast? =
      (node.children.filter chosen).getLast?.map (without drops) := by
  rw [List.getLast?_filter] at kept
  rw [children_without, List.filter_map, labelled.comp_without, List.getLast?_map,
    List.getLast?_filter, List.getLast?_filter, ← List.filter_reverse, find_kept kept]

/-- Children that are all read, where those dropped give nothing. -/
theorem filter_map_named_without {node : Node} {read : Node → Option β}
    (same : ∀ child ∈ node.namedChildren, read (child.without drops) = read child)
    (nothing : ∀ child, drops child = true → read child = none) :
    (node.without drops).namedChildren.filterMap read = node.namedChildren.filterMap read := by
  rw [named_children_without, List.filterMap_map, List.filterMap_filter]
  refine List.filterMap_congr fun child member => ?_
  by_cases dropped : drops child = true
  · simp [dropped, nothing child dropped]
  · simp [dropped, same child member]

end Choices

section Comments

/-- A comment without a role and without parts, where comments are of those kinds. -/
def isCommentOf (kinds : List String) (node : Node) : Bool :=
  kinds.contains node.kind && node.children.isEmpty && node.label.field.isNone

variable {kinds : List String} {node : Node}

theorem comment_kind (comment : isCommentOf kinds node = true) : node.kind ∈ kinds := by
  simp only [isCommentOf, Bool.and_eq_true, List.contains_iff_mem] at comment
  exact comment.1.1

theorem comment_children (comment : isCommentOf kinds node = true) : node.children = [] := by
  simp only [isCommentOf, Bool.and_eq_true, List.isEmpty_iff] at comment
  exact comment.1.2

theorem role_kept {name : String} (role : node.hasField name = true) :
    isCommentOf kinds node = false := by
  have named : node.label.field = some name := by simpa [hasField] using role
  simp [isCommentOf, named]

theorem kind_kept (other : node.kind ∉ kinds) : isCommentOf kinds node = false := by
  simp [isCommentOf, other]

theorem chosen_kind_kept {chosen : List String} (member : chosen.contains node.kind = true)
    (others : ∀ kind ∈ chosen, kind ∉ kinds) : isCommentOf kinds node = false :=
  kind_kept (others node.kind (List.contains_iff_mem.mp member))

variable (kinds node)

theorem field_without (name : String) :
    (node.without (isCommentOf kinds)).field? name =
      (node.field? name).map (without (isCommentOf kinds)) := by
  apply find_without
  · intro drops child
    simp [hasField]
  · intro child found
    exact role_kept (List.find?_some found)

theorem fields_without (name : String) :
    (node.without (isCommentOf kinds)).fields name =
      (node.fields name).map (without (isCommentOf kinds)) := by
  apply filter_without
  · intro drops child
    simp [hasField]
  · intro child _ role
    exact role_kept role

theorem child_without {chosen : List String} (others : ∀ kind ∈ chosen, kind ∉ kinds) :
    (node.without (isCommentOf kinds)).childOf? chosen =
      (node.childOf? chosen).map (without (isCommentOf kinds)) := by
  apply find_without
  · intro drops child
    simp
  · intro child found
    have member := List.find?_some found
    exact chosen_kind_kept member others

end Comments

end PatternInspector.Syntax.Node
