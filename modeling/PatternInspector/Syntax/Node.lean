import PatternInspector.Text.Basic

/-!
Syntax trees: nodes with a kind, a place in the text, and ordered children.

Every character of the grammar that carries meaning is a node; the named ones stand for the rules of
the grammar and the others for its keywords and punctuation. A child may have a role under its
parent, its field.
-/
namespace PatternInspector.Syntax

/-- A place in a text: its row and the column in bytes, both counted from zero. -/
structure Point where
  row : Nat := 0
  column : Nat := 0
  deriving DecidableEq

structure Label where
  kind : String
  isNamed : Bool := true
  field : Option String := none
  start : Point := {}
  stop : Point := {}
  text : Text := []
  /-- The node was expected and is not in the text. -/
  isMissing : Bool := false
  /-- The node covers text that fits no rule. -/
  isError : Bool := false
  deriving DecidableEq

inductive Node where
  | mk (label : Label) (children : List Node)

instance : Inhabited Node := ⟨.mk { kind := "" } []⟩

namespace Node

section Access

def label : Node → Label
  | .mk label _ => label

def children : Node → List Node
  | .mk _ children => children

def kind (node : Node) : String := node.label.kind

def text (node : Node) : String := String.ofList node.label.text

def line (node : Node) : Nat := node.label.start.row + 1

def column (node : Node) : Nat := node.label.start.column + 1

def rowSpan (node : Node) : Nat := node.label.stop.row - node.label.start.row

def namedChildren (node : Node) : List Node := node.children.filter (·.label.isNamed)

def hasField (name : String) (node : Node) : Bool := node.label.field == some name

def field? (node : Node) (name : String) : Option Node := node.children.find? (hasField name)

def fields (node : Node) (name : String) : List Node := node.children.filter (hasField name)

def childOf? (node : Node) (kinds : List String) : Option Node :=
  node.children.find? fun child => kinds.contains child.kind

end Access

section Walking

mutual

def size : Node → Nat
  | .mk _ children => sizeAll children + 1

def sizeAll : List Node → Nat
  | [] => 0
  | node :: rest => size node + sizeAll rest

end

theorem size_children (node : Node) : node.size = sizeAll node.children + 1 := by
  cases node
  rw [size, children]

theorem size_all_append (first second : List Node) :
    sizeAll (first ++ second) = sizeAll first + sizeAll second := by
  induction first with
  | nil => simp [sizeAll]
  | cons node rest ih => simp [sizeAll, ih, Nat.add_assoc]

theorem size_all_reverse (nodes : List Node) : sizeAll nodes.reverse = sizeAll nodes := by
  induction nodes with
  | nil => rfl
  | cons node rest ih => simp [size_all_append, sizeAll, ih, Nat.add_comm]

/-- Takes the last node off a stack and puts its children there. The first child comes to stand last,
so it is the next to be taken off. -/
def takeOff? (stack : Array Node) : Option (Node × Array Node) :=
  stack.back?.map fun node => (node, stack.pop ++ node.children.reverse)

theorem take_off_some {stack next : Array Node} {node : Node}
    (taken : takeOff? stack = some (node, next)) :
    ∃ rest : Array Node, stack = rest.push node ∧ next = rest ++ node.children.reverse := by
  obtain ⟨last, top, same⟩ := Option.map_eq_some_iff.mp taken
  obtain ⟨rest, rfl⟩ := Array.back?_eq_some_iff.mp top
  cases same
  exact ⟨rest, rfl, by rw [Array.pop_push]⟩

-- The node is gone and all that is below it stays.
theorem take_off_size {stack next : Array Node} {node : Node}
    (taken : takeOff? stack = some (node, next)) :
    sizeAll stack.toList = sizeAll next.toList + 1 := by
  obtain ⟨rest, rfl, rfl⟩ := take_off_some taken
  simp [size_all_append, size_all_reverse, sizeAll, size_children, Nat.add_assoc]

/-- The nodes that come off a stack until it is empty. -/
def walkFrom (stack : Array Node) : List Node :=
  match _taken : takeOff? stack with
  | none => []
  | some (node, next) => node :: walkFrom next
termination_by sizeAll stack.toList
decreasing_by exact take_off_size _taken ▸ Nat.lt_succ_self _

/-- The node and its descendants, parents before children and siblings in order. -/
def walk (root : Node) : List Node := walkFrom #[root]

/-- A node met on a walk, with the nodes around it and its position under the nearest of them. -/
structure Visit where
  node : Node
  /-- The parent first and the root last. -/
  ancestors : List Node
  index : Nat

def Visit.parent (visit : Visit) : Option Node := visit.ancestors.head?

mutual

def visitsFrom (ancestors : List Node) (index : Nat) : Node → List Visit
  | .mk label children =>
      ⟨.mk label children, ancestors, index⟩ ::
        visitsAll (.mk label children :: ancestors) 0 children

def visitsAll (ancestors : List Node) (index : Nat) : List Node → List Visit
  | [] => []
  | node :: rest => visitsFrom ancestors index node ++ visitsAll ancestors (index + 1) rest

end

def visits (root : Node) : List Visit := visitsFrom [] 0 root

/-- Whether the visited node is the first child in that role under a parent of that kind. -/
def Visit.isFieldOf (visit : Visit) (kind name : String) : Bool :=
  match visit.parent with
  | none => false
  | some parent =>
      parent.kind == kind && parent.children.findIdx? (hasField name) == some visit.index

end Walking

end Node

end PatternInspector.Syntax
