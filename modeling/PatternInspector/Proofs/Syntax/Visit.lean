import PatternInspector.Proofs.Syntax.Enumeration
import PatternInspector.Proofs.Syntax.Removal

/-!
The visits of a walk and the places where they are made. A walk is a table of the tree: it lists what
stands at each place, in the order of the places. What each visit adds to a list is enumerated again,
by the place of the visit and then by the order within it, so a check that goes through the visits
reports once for each place where it has something to report. Leaves that no check looks at can be left
out: the other visits are made as before, at positions that count what is left.
-/
namespace PatternInspector.Syntax

-- A node stands before everything below it.
theorem tabulates_below {β : Type} {lookup : Place → Option β} {first : β} {results : List β}
    (root : lookup [] = some first)
    (table : Tabulates (Prod.Lex (· < ·) (· < ·)) (fun key : Nat × Place => lookup (key.1 :: key.2))
      results) :
    Tabulates (· < ·) lookup (first :: results) := by
  obtain ⟨keys, ordered, complete, tied⟩ := table
  refine ⟨[] :: keys.map fun key => key.1 :: key.2, List.pairwise_cons.mpr ⟨?_, ?_⟩, ?_, ?_⟩
  · intro place member
    obtain ⟨key, -, rfl⟩ := List.mem_map.mp member
    exact List.nil_lt_cons _ _
  · apply ordered.map
    intro one other sooner
    exact List.cons_lt_cons_iff.mpr (Prod.lex_def.mp sooner)
  · intro place
    cases place with
    | nil => simp [root]
    | cons index rest => simp [← complete (index, rest)]
  · refine List.Forall₂.cons root ?_
    rw [List.forall₂_map_left_iff]
    exact tied

namespace Node

section Visits

theorem visits_all_zip (ancestors : List Node) (index : Nat) (nodes : List Node) :
    visitsAll ancestors index nodes =
      (nodes.zipIdx index).flatMap fun child => visitsFrom ancestors child.2 child.1 := by
  induction nodes generalizing index with
  | nil => rfl
  | cons node rest ih => rw [visitsAll, ih, List.zipIdx_cons, List.flatMap_cons]

theorem visits_from_children (ancestors : List Node) (index : Nat) (node : Node) :
    visitsFrom ancestors index node =
      ⟨node, ancestors, index⟩ :: visitsAll (node :: ancestors) 0 node.children := by
  cases node
  rw [visitsFrom, children]

def visitFrom? (ancestors : List Node) (index : Nat) (node : Node) : Place → Option Visit
  | [] => some ⟨node, ancestors, index⟩
  | next :: rest =>
      (node.children[next]?).bind fun child => visitFrom? (node :: ancestors) next child rest

def visitAt? (root : Node) (place : Place) : Option Visit := root.visitFrom? [] 0 place

theorem visits_from_tabulate (node : Node) : ∀ ancestors index,
    Tabulates (· < ·) (node.visitFrom? ancestors index) (visitsFrom ancestors index node) := by
  induction node using tree_induction with
  | step label children ih =>
      intro ancestors index
      rw [visits_from_children, visits_all_zip]
      refine tabulates_below rfl ?_
      have branches := tabulates_flat_map (tabulates_list (children.zipIdx 0)) fun child member =>
        ih child.1 (List.fst_mem_of_mem_zipIdx member) (.mk label children :: ancestors) child.2
      have same : (fun key : Nat × Place =>
          visitFrom? ancestors index (.mk label children) (key.1 :: key.2)) =
          fun key => ((children.zipIdx 0)[key.1]?).bind fun child =>
            visitFrom? (.mk label children :: ancestors) child.2 child.1 key.2 := by
        funext key
        cases here : children[key.1]? <;> simp [visitFrom?, Node.children, here]
      rw [same]
      exact branches

theorem visits_tabulate (root : Node) : Tabulates (· < ·) root.visitAt? root.visits :=
  visits_from_tabulate root [] 0

theorem mem_visits {root : Node} {visit : Visit} :
    visit ∈ root.visits ↔ ∃ place, root.visitAt? place = some visit := by
  obtain ⟨entries, values, -, complete⟩ := tabulates_entries (visits_tabulate root)
  rw [← values, List.mem_map]
  constructor
  · rintro ⟨⟨place, _⟩, member, rfl⟩
    exact ⟨place, (complete place _).mp member⟩
  · rintro ⟨place, found⟩
    exact ⟨(place, visit), (complete place visit).mpr found, rfl⟩

theorem visit_node (root : Node) (place : Place) :
    (root.visitAt? place).map (·.node) = root.at? place := by
  suffices below : ∀ ancestors index, (root.visitFrom? ancestors index place).map (·.node) =
      root.at? place from below [] 0
  induction place generalizing root with
  | nil =>
      intro ancestors index
      rfl
  | cons next rest ih =>
      intro ancestors index
      rw [visitFrom?, at?, Option.map_bind]
      apply Option.bind_congr
      intro child _
      exact ih child (root :: ancestors) next

-- One step further down there is one ancestor more.
theorem visit_below (root : Node) (outer : Place) (last : Nat) :
    root.visitAt? (outer ++ [last]) =
      (root.visitAt? outer).bind fun above =>
        (above.node.children[last]?).map fun child => ⟨child, above.node :: above.ancestors, last⟩ := by
  suffices below : ∀ ancestors index, root.visitFrom? ancestors index (outer ++ [last]) =
      (root.visitFrom? ancestors index outer).bind fun above =>
        (above.node.children[last]?).map fun child =>
          ⟨child, above.node :: above.ancestors, last⟩ from below [] 0
  induction outer generalizing root with
  | nil =>
      intro ancestors index
      cases found : root.children[last]? <;> simp [visitFrom?, found]
  | cons next rest ih =>
      intro ancestors index
      rw [List.cons_append, visitFrom?, visitFrom?, Option.bind_assoc]
      apply Option.bind_congr
      intro child _
      exact ih child (root :: ancestors) next

theorem visits_nodes (root : Node) : root.visits.map (·.node) = root.walk := by
  suffices below : ∀ ancestors index, (visitsFrom ancestors index root).map (·.node) = root.walk from
    below [] 0
  induction root using tree_induction with
  | step label children ih =>
      intro ancestors index
      rw [visitsFrom, walk_children, List.map_cons]
      congr 1
      suffices later : ∀ (above : List Node) (start : Nat),
          (visitsAll above start children).map (·.node) = children.flatMap walk from later _ 0
      intro above
      induction children with
      | nil =>
          intro start
          rfl
      | cons child rest again =>
          intro start
          rw [visitsAll, List.flatMap_cons, List.map_append, ih child List.mem_cons_self,
            again fun other member => ih other (List.mem_cons_of_mem _ member)]

end Visits

section Pruning

variable {β : Type} (drops : Node → Bool)

/-- How a visit looks when nodes are left out: among its siblings it counts those that stay. -/
def Visit.without (visit : Visit) : Visit where
  node := visit.node.without drops
  ancestors := visit.ancestors.map (Node.without drops)
  index := visit.parent.elim visit.index fun parent =>
    ((parent.children.take visit.index).filter (!drops ·)).length

theorem parent_without (visit : Visit) :
    (visit.without drops).parent = visit.parent.map (Node.without drops) := by
  rw [Visit.parent, Visit.without, List.head?_map, Visit.parent]

/-- The visited node stands under its parent at its position. -/
def Visit.Genuine (visit : Visit) : Prop :=
  ∀ parent, visit.parent = some parent → parent.children[visit.index]? = some visit.node

def Visit.within (visit : Visit) : List Visit := visitsFrom visit.ancestors visit.index visit.node

variable {drops} {read : Visit → List β}

-- The siblings before the ones at hand fix the positions, with and without those left out.
theorem visits_children_without {node : Node} (ancestors : List Node)
    (leaves : ∀ node, drops node = true → node.children = [])
    (silent : ∀ visit : Visit, drops visit.node = true → read visit = [])
    (each : ∀ visit : Visit, visit.node ∈ node.children → visit.Genuine → drops visit.node = false →
      (visit.without drops).within.flatMap read = visit.within.flatMap read)
    (before rest : List Node) (split : node.children = before ++ rest) :
    (visitsAll (node.without drops :: ancestors.map (without drops))
      (before.filter (!drops ·)).length ((rest.filter (!drops ·)).map (without drops))).flatMap read =
        (visitsAll (node :: ancestors) before.length rest).flatMap read := by
  induction rest generalizing before with
  | nil => rfl
  | cons child rest ih =>
      have later := ih (before ++ [child]) (by simpa using split)
      rw [visitsAll, List.flatMap_append]
      by_cases dropped : drops child = true
      · have alone : (visitsFrom (node :: ancestors) before.length child).flatMap read = [] := by
          rw [visits_from_children, leaves child dropped, List.flatMap_cons, silent _ dropped]
          rfl
        rw [alone, List.filter_cons_of_neg (by simp [dropped])]
        simpa [dropped] using later
      · have here : node.children[before.length]? = some child := by simp [split]
        have first := each ⟨child, node :: ancestors, before.length⟩ (List.mem_of_getElem? here)
          (by rintro _ ⟨⟩; exact here) (by simpa using dropped)
        rw [Visit.within, Visit.within] at first
        have position : ((node.children.take before.length).filter (!drops ·)).length =
            (before.filter (!drops ·)).length := by
          simp [split]
        rw [List.filter_cons_of_pos (by simp [dropped]), List.map_cons, visitsAll,
          List.flatMap_append, ← first, ← position]
        congr 1
        simpa [dropped, position] using later

theorem flat_map_visits_without {root : Node}
    (leaves : ∀ node, drops node = true → node.children = [])
    (silent : ∀ visit : Visit, drops visit.node = true → read visit = [])
    (same : ∀ visit : Visit, visit.node ∈ root.walk → visit.Genuine → drops visit.node = false →
      read (visit.without drops) = read visit) :
    (root.without drops).visits.flatMap read = root.visits.flatMap read := by
  have kept : ∀ node ∈ root.walk, ∀ visit : Visit, visit.node = node → visit.Genuine →
      drops node = false →
        (visit.without drops).within.flatMap read = visit.within.flatMap read := by
    intro node
    induction node using tree_induction with
    | step label children ih =>
        intro member visit here genuine stays
        have own : visit.node.children = children := by rw [here, Node.children]
        have below := visits_children_without visit.ancestors leaves silent
          (fun inner child => ih inner.node (own ▸ child)
            (mem_walk_trans (mem_walk_child (own ▸ child) inner.node.self_mem_walk) member) inner rfl)
          [] visit.node.children rfl
        rw [Visit.within, Visit.within, visits_from_children, visits_from_children,
          List.flatMap_cons, List.flatMap_cons]
        congr 1
        · exact same visit (here ▸ member) genuine (here ▸ stays)
        · rw [Visit.without, children_without]
          exact below
  by_cases dropped : drops root = true
  · have whole : root.without drops = root := by
      cases root with
      | mk label children =>
          obtain rfl : children = [] := leaves _ dropped
          rfl
    rw [whole]
  · exact kept root root.self_mem_walk ⟨root, [], 0⟩ rfl (by rintro _ ⟨⟩) (by simpa using dropped)

end Pruning

end Node

end PatternInspector.Syntax
