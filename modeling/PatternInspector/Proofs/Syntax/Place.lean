import PatternInspector.Syntax.Node

/-!
Places in a syntax tree. A place says which child to take at each step down, so two nodes are the same
only if they stand at the same place, and the lexicographic order of places is the order of a walk:
parents before children and siblings from left to right.
-/
namespace PatternInspector.Syntax

abbrev Place := List Nat

/-- One place is that of a proper ancestor of the other. -/
def Above (outer place : Place) : Prop := outer <+: place ∧ outer ≠ place

theorem not_above_root (outer : Place) : ¬ Above outer [] := by
  rintro ⟨around, proper⟩
  exact proper (List.prefix_nil.mp around)

theorem above_last_iff {outer place : Place} {last : Nat} :
    Above outer (place ++ [last]) ↔ outer <+: place := by
  rw [Above, List.prefix_concat_iff, or_and_right]
  constructor
  · rintro (⟨same, proper⟩ | ⟨around, -⟩)
    · exact absurd same proper
    · exact around
  · intro around
    refine Or.inr ⟨around, ?_⟩
    rintro rfl
    exact absurd around.length_le (by simp)

namespace Node

def at? : Node → Place → Option Node
  | node, [] => some node
  | node, index :: rest => (node.children[index]?).bind fun child => child.at? rest

theorem at_append (node : Node) (first second : Place) :
    node.at? (first ++ second) = (node.at? first).bind fun found => found.at? second := by
  induction first generalizing node with
  | nil => rfl
  | cons index first ih =>
      simp only [List.cons_append, at?]
      cases node.children[index]? with
      | none => rfl
      | some child => exact ih child

mutual

theorem tree_induction {holds : Node → Prop}
    (step : ∀ label children, (∀ child ∈ children, holds child) → holds (.mk label children)) :
    ∀ node, holds node
  | .mk label children => step label children (forest_induction step children)

theorem forest_induction {holds : Node → Prop}
    (step : ∀ label children, (∀ child ∈ children, holds child) → holds (.mk label children)) :
    ∀ nodes : List Node, ∀ node ∈ nodes, holds node
  | [] => by simp
  | first :: rest => List.forall_mem_cons.mpr ⟨tree_induction step first, forest_induction step rest⟩

end

end Node

end PatternInspector.Syntax
