import PatternInspector.Proofs.Syntax.Place

/-!
Walks by means of a stack. A turn takes the last node off and puts its children there in reverse, so
all that is below a node comes off before what was under it on the stack. From this the walk over a
tree is the root followed by the walks over its children, and it is over after as many turns as the
tree has nodes.
-/
namespace PatternInspector.Syntax.Node

section Order

theorem take_off_push (stack : Array Node) (node : Node) :
    takeOff? (stack.push node) = some (node, stack ++ node.children.reverse) := by
  simp [takeOff?]

theorem walk_from_empty : walkFrom #[] = [] := by
  rw [walkFrom]
  rfl

theorem walk_from_taken {stack next : Array Node} {node : Node}
    (taken : takeOff? stack = some (node, next)) : walkFrom stack = node :: walkFrom next := by
  rw [walkFrom]
  split
  next none => simp [none] at taken
  next same => simp_all

theorem walk_from_push (stack : Array Node) (node : Node) :
    walkFrom (stack.push node) = node :: walkFrom (stack ++ node.children.reverse) :=
  walk_from_taken (take_off_push stack node)

/-- The tree of a node comes off a stack before anything under it. -/
def ComesFirst (node : Node) : Prop :=
  ∀ stack : Array Node, walkFrom (stack.push node) = node.walk ++ walkFrom stack

theorem walk_from_append {nodes : List Node} (each : ∀ node ∈ nodes, ComesFirst node)
    (stack : Array Node) :
    walkFrom (stack ++ nodes.reverse) = nodes.flatMap walk ++ walkFrom stack := by
  induction nodes with
  | nil => simp
  | cons node rest ih =>
      have pushed : stack ++ (node :: rest).reverse = (stack ++ rest.reverse).push node := by
        apply Array.ext'
        simp
      have later := ih fun other member => each other (List.mem_cons_of_mem _ member)
      rw [pushed, each node List.mem_cons_self, later, List.flatMap_cons, List.append_assoc]

theorem walk_of_children {node : Node} (each : ∀ child ∈ node.children, ComesFirst child) :
    node.walk = node :: node.children.flatMap walk := by
  have alone : #[node] = (#[] : Array Node).push node := rfl
  rw [walk, alone, walk_from_push, walk_from_append each, walk_from_empty, List.append_nil]

theorem comes_first (node : Node) : node.ComesFirst := by
  induction node using tree_induction with
  | step label children ih =>
      intro stack
      have below : ∀ child ∈ (mk label children).children, ComesFirst child := ih
      rw [walk_from_push, walk_from_append below, walk_of_children below, List.cons_append]

theorem walk_children (node : Node) : node.walk = node :: node.children.flatMap walk :=
  walk_of_children fun child _ => comes_first child

end Order

section Turns

def turns : Nat → Array Node → List Node × Array Node
  | 0, stack => ([], stack)
  | count + 1, stack =>
      match takeOff? stack with
      | none => ([], stack)
      | some (node, next) => (node :: (turns count next).1, (turns count next).2)

theorem take_off_none {stack : Array Node} (empty : takeOff? stack = none) : stack = #[] := by
  simpa [takeOff?] using empty

-- A walk that is broken off has listed the beginning of the whole walk.
theorem turns_walk (count : Nat) (stack : Array Node) :
    (turns count stack).1 = (walkFrom stack).take count ∧
      walkFrom (turns count stack).2 = (walkFrom stack).drop count := by
  induction count generalizing stack with
  | zero => simp [turns]
  | succ count ih =>
      rw [turns]
      split
      next empty => simp [take_off_none empty, walk_from_empty]
      next node next taken => simp [walk_from_taken taken, ih next]

theorem length_walk_from (stack : Array Node) : (walkFrom stack).length = sizeAll stack.toList := by
  fun_induction walkFrom stack with
  | case1 stack empty => simp [take_off_none empty, sizeAll]
  | case2 stack node next taken ih => rw [List.length_cons, ih, take_off_size taken]

theorem length_walk (root : Node) : root.walk.length = root.size := by
  rw [walk, length_walk_from, sizeAll, sizeAll, Nat.add_zero]

theorem walk_from_nil_iff {stack : Array Node} : walkFrom stack = [] ↔ stack = #[] := by
  constructor
  · intro ended
    cases taken : takeOff? stack with
    | none => exact take_off_none taken
    | some result => simp [walk_from_taken taken] at ended
  · rintro rfl
    exact walk_from_empty

theorem turns_over_iff (root : Node) (count : Nat) :
    (turns count #[root]).2 = #[] ↔ root.size ≤ count := by
  rw [← walk_from_nil_iff, (turns_walk count #[root]).2, List.drop_eq_nil_iff, length_walk_from]
  simp [sizeAll]

end Turns

end PatternInspector.Syntax.Node
