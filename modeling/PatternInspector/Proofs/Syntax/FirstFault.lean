import PatternInspector.Proofs.Syntax.Visit
import PatternInspector.Syntax.Fault

/-!
What is reported of a tree with faults. The report is about the first faulty node of the walk, which
lists the node at each place of the tree once and in the order of the places.
-/
namespace PatternInspector.Syntax

namespace Node

theorem walk_tabulates (root : Node) : Tabulates (· < ·) root.at? root.walk := by
  have nodes : Tabulates (· < ·) (fun place => (root.visitAt? place).map (·.node)) _ :=
    tabulates_map (visits_tabulate root)
  rwa [visits_nodes, funext (visit_node root)] at nodes

def Faulty (node : Node) : Prop := node.label.isMissing = true ∨ node.label.isError = true

end Node

/-- A fault names the line and the column at which a node starts. The node counts as missing if it is
marked so, whether or not it is marked as an error too. -/
structure Fault.IsAbout (fault : Fault) (node : Node) : Prop where
  line : fault.line = some (node.label.start.row + 1)
  column : fault.column = some (node.label.start.column + 1)
  missing : node.label.isMissing = true →
    fault.message = "Missing '" ++ node.kind ++ "' " ++ place node
  error : node.label.isMissing = false →
    fault.message = "Syntax error " ++ place node ++ near node.label.text

section Reports

variable {node : Node} {fault : Fault}

theorem fault_about (reported : faultOf? node = some fault) : node.Faulty ∧ fault.IsAbout node := by
  unfold faultOf? at reported
  split at reported
  next missing =>
    cases reported
    exact ⟨Or.inl missing, rfl, rfl, fun _ => rfl, fun present => by simp [present] at missing⟩
  next present =>
    split at reported
    next error =>
      cases reported
      exact ⟨Or.inr error, rfl, rfl, fun missing => absurd missing present, fun _ => rfl⟩
    next => cases reported

theorem no_fault_iff : faultOf? node = none ↔ ¬ node.Faulty := by
  unfold faultOf? Node.Faulty
  split
  next missing => simp [missing]
  next present =>
    split
    next error => simp [error]
    next sound => simp [present, sound]

theorem first_fault_cases (root : Node) :
    (∃ before node after, root.walk = before ++ node :: after ∧
      (∀ earlier ∈ before, ¬ earlier.Faulty) ∧ node.Faulty ∧ (firstFault root).IsAbout node) ∨
    ((∀ node ∈ root.walk, ¬ node.Faulty) ∧ firstFault root = .somewhere) := by
  cases found : root.walk.findSome? faultOf? with
  | none =>
      refine Or.inr ⟨fun node member => ?_, by rw [firstFault, found, Option.getD_none]⟩
      exact no_fault_iff.mp (List.findSome?_eq_none_iff.mp found node member)
  | some fault =>
      obtain ⟨before, node, after, split, reported, quiet⟩ := List.findSome?_eq_some_iff.mp found
      obtain ⟨faulty, about⟩ := fault_about reported
      refine Or.inl ⟨before, node, after, split, fun earlier member => ?_, faulty, ?_⟩
      · exact no_fault_iff.mp (quiet earlier member)
      · rwa [firstFault, found, Option.getD_some]

end Reports

/-- The walk by a stack lists a tree in pre-order. After any number of turns it has listed that many
nodes of the walk, and the stack is empty exactly when there have been as many turns as nodes. The
walk is the root and then the walks over its children, and it lists what stands at each place of the
tree, once and in the order of the places. A tree that is flagged is refused for the first faulty
node of the walk, with the position of that node, or without a position if no node is faulty. -/
theorem walk_preorder (root : Node) :
    (∀ count, (Node.turns count #[root]).1 = root.walk.take count ∧
      ((Node.turns count #[root]).2 = #[] ↔ root.size ≤ count)) ∧
    root.walk = root :: root.children.flatMap Node.walk ∧
    root.walk.length = root.size ∧ Tabulates (· < ·) root.at? root.walk ∧
    ∃ fault, Tree.check ⟨root, true⟩ = .error fault ∧
      ((∃ before node after, root.walk = before ++ node :: after ∧
        (∀ earlier ∈ before, ¬ earlier.Faulty) ∧ node.Faulty ∧ fault.IsAbout node) ∨
      ((∀ node ∈ root.walk, ¬ node.Faulty) ∧ fault.line = none ∧ fault.column = none)) := by
  refine ⟨fun count => ⟨(Node.turns_walk count #[root]).1, Node.turns_over_iff root count⟩,
    Node.walk_children root, Node.length_walk root, Node.walk_tabulates root, firstFault root, rfl,
    ?_⟩
  rcases first_fault_cases root with faulty | ⟨sound, somewhere⟩
  · exact Or.inl faulty
  · rw [somewhere]
    exact Or.inr ⟨sound, rfl, rfl⟩

end PatternInspector.Syntax
