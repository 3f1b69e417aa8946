import Mathlib.Data.List.Induction
import PatternInspector.Java.Extract
import PatternInspector.Proofs.Syntax.Visit

/-!
Class models against the tree they are read from. There is one model for each declaration of a class
or interface, in the order of a walk, and its members are those of the declaration's own body, so
that no member is lost and none is counted twice, however deep declarations are nested in one another.
-/
namespace PatternInspector.Java

open PatternInspector.Syntax (Node Place Above Enumerates Tabulates)
open PatternInspector.Syntax.Node (Visit)

section Enclosing

def DeclaresAt (root : Node) (place : Place) : Prop :=
  ∃ node, root.at? place = some node ∧ isTypeDeclaration node = true

/-- The nearest declaration around a place stands at another place. -/
structure NearestAround (root : Node) (outer place : Place) : Prop where
  above : Above outer place
  declared : DeclaresAt root outer
  nearest : ∀ other, Above other place → DeclaresAt root other → other <+: outer

/-- The name of the nearest declaration around a place, or none if no declaration is around it. -/
inductive OuterName (root : Node) (place : Place) : Option String → Prop
  | within {outer : Place} {node : Node} (nearest : NearestAround root outer place)
      (found : root.at? outer = some node) : OuterName root place (some (fieldText node "name"))
  | outermost (free : ∀ other, Above other place → ¬ DeclaresAt root other) :
      OuterName root place none

variable {root node : Node} {outer : Place}

theorem outer_name_parent (found : root.at? outer = some node)
    (declared : isTypeDeclaration node = true) (last : Nat) :
    OuterName root (outer ++ [last]) (some (fieldText node "name")) := by
  refine .within ?_ found
  exact {
    above := Syntax.above_last_iff.mpr List.prefix_rfl
    declared := ⟨node, found, declared⟩
    nearest := fun other above _ => Syntax.above_last_iff.mp above }

-- Where the parent declares nothing, the same declarations are around the place and around the parent.
theorem outer_name_further {name : Option String} (found : root.at? outer = some node)
    (undeclared : ¬ isTypeDeclaration node = true) (further : OuterName root outer name)
    (last : Nat) : OuterName root (outer ++ [last]) name := by
  have passed : ∀ other, Above other (outer ++ [last]) → DeclaresAt root other →
      Above other outer := by
    rintro other above ⟨declaring, reached, declared⟩
    refine ⟨Syntax.above_last_iff.mp above, ?_⟩
    rintro rfl
    obtain rfl : node = declaring := Option.some.inj (found.symm.trans reached)
    exact undeclared declared
  cases further with
  | within nearest reached =>
      refine .within ?_ reached
      exact {
        above := Syntax.above_last_iff.mpr nearest.above.1
        declared := nearest.declared
        nearest := fun other above declared =>
          nearest.nearest other (passed other above declared) declared }
  | outermost free =>
      exact .outermost fun other above declared => free other (passed other above declared) declared

-- The search goes up as the place gets shorter from its end.
theorem enclosing_name_outer {place : Place} {visit : Visit}
    (met : root.visitAt? place = some visit) :
    OuterName root place (enclosingName visit.ancestors) := by
  induction place using List.reverseRecOn generalizing visit with
  | nil =>
      obtain rfl := Option.some.inj met
      exact .outermost fun other above => absurd above (Syntax.not_above_root other)
  | append_singleton outer last ih =>
      rw [Node.visit_below] at met
      obtain ⟨above, reached, child⟩ := Option.bind_eq_some_iff.mp met
      obtain ⟨node, -, rfl⟩ := Option.map_eq_some_iff.mp child
      have found : root.at? outer = some above.node := by
        rw [← Node.visit_node, reached, Option.map_some]
      rw [enclosingName]
      split
      next declared => exact outer_name_parent found declared last
      next undeclared => exact outer_name_further found undeclared (ih reached) last

end Enclosing

section Members

/-- A named child of the body of the declaration at `site` stands at `place`. -/
def MemberOf (root : Node) (site place : Place) (member : Node) : Prop :=
  ∃ node index position, root.at? site = some node ∧ isTypeDeclaration node = true ∧
    node.children.findIdx? (Node.hasField "body") = some index ∧
    place = site ++ [index, position] ∧ root.at? place = some member ∧
    member.label.isNamed = true

-- The place of a member tells whose member it is.
theorem member_owner {root member other : Node} {site site' place : Place}
    (own : MemberOf root site place member) (shared : MemberOf root site' place other) :
    site = site' := by
  obtain ⟨-, index, position, -, -, -, same, -⟩ := own
  obtain ⟨-, index', position', -, -, -, same', -⟩ := shared
  exact List.append_inj_left' (same.symm.trans same') rfl

def membersOf (node : Node) : List Node := ((node.field? "body").map Node.namedChildren).getD []

def memberAt? (node : Node) (position : Nat) : Option Node :=
  ((node.field? "body").bind fun body => body.children[position]?).filter (·.label.isNamed)

def bodyIndex (node : Node) : Nat := node.children.findIdx (Node.hasField "body")

theorem members_tabulate (node : Node) :
    Tabulates (· < ·) (memberAt? node) (membersOf node) := by
  unfold memberAt? membersOf
  cases node.field? "body" with
  | none => exact Syntax.enumerates_nil (by simp)
  | some body => exact Syntax.tabulates_filter (Syntax.tabulates_list body.children)

variable {root node : Node} {site : Place}

theorem member_of_iff (here : root.at? site = some node) (declared : isTypeDeclaration node = true)
    {place : Place} {member : Node} :
    MemberOf root site place member ↔
      ∃ position, place = site ++ [bodyIndex node, position] ∧
        memberAt? node position = some member := by
  have down : ∀ position, node.children.findIdx? (Node.hasField "body") = some (bodyIndex node) →
      root.at? (site ++ [bodyIndex node, position]) =
        (node.field? "body").bind fun body => body.children[position]? := by
    intro position first
    rw [Node.at_append, here, Node.field?, List.find?_eq_bind_findIdx?_getElem?, first]
    cases body : node.children[bodyIndex node]? with
    | none => simp [Node.at?, body]
    | some body => simp [Node.at?, body]
  constructor
  · rintro ⟨other, index, position, here', -, first, rfl, reached, named⟩
    obtain rfl : node = other := Option.some.inj (here.symm.trans here')
    obtain rfl : bodyIndex node = index := (List.findIdx?_eq_some_iff_findIdx_eq.mp first).2
    refine ⟨position, rfl, ?_⟩
    rw [memberAt?, ← down position first, reached, Option.filter_some, if_pos named]
  · rintro ⟨position, rfl, found⟩
    obtain ⟨reached, named⟩ := Option.filter_eq_some_iff.mp found
    obtain ⟨body, first, -⟩ := Option.bind_eq_some_iff.mp reached
    have index : node.children.findIdx? (Node.hasField "body") = some (bodyIndex node) := by
      apply List.findIdx?_eq_some_of_exists
      exact ⟨body, List.mem_of_find?_eq_some first, List.find?_some first⟩
    exact ⟨node, bodyIndex node, position, here, declared, index, rfl,
      (down position index).trans reached, named⟩

end Members

section Models

def IsMethod (member : Node) : Prop :=
  member.kind = "method_declaration" ∨ member.kind = "constructor_declaration"

def IsField (member : Node) : Prop :=
  member.kind = "field_declaration" ∨ member.kind = "constant_declaration"

/-- What a method keeps of the member it comes from. Constructors are told apart by having no return
type, and they have the name of their class. -/
structure MethodFrom (className : String) (member : Node) (method : Method) : Prop where
  returnType : method.returnType = none ↔ member.kind = "constructor_declaration"
  name : method.name =
    if member.kind = "constructor_declaration" then className else fieldText member "name"
  line : method.line = some (member.line : Int)

theorem method_from {inInterface : Bool} {className : String} {member : Node} {method : Method}
    (made : methodOf? inInterface className member = some method) :
    IsMethod member ∧ MethodFrom className member method := by
  unfold methodOf? at made
  split at made
  next kind =>
    cases made
    exact ⟨Or.inl kind, by simp [methodOf, kind], by simp [methodOf, kind], rfl⟩
  next kind =>
    cases made
    exact ⟨Or.inr kind, by simp [constructorOf, kind], by simp [constructorOf, kind], rfl⟩
  next => cases made

theorem method_made {inInterface : Bool} {className : String} {member : Node}
    (declared : IsMethod member) : ∃ method, methodOf? inInterface className member = some method := by
  unfold methodOf?
  rcases declared with kind | kind
  · simp [kind]
  · simp [kind]

structure FieldFrom (member declarator : Node) (field : Field) : Prop where
  name : field.name = fieldText declarator "name"
  type : field.type = optionalTypeName "unknown" (member.field? "type")

def declaratorAt? (member : Node) (position : Nat) : Option Node :=
  (member.children[position]?).filter (Node.hasField "declarator")

def fieldMemberAt? (node : Node) (position : Nat) : Option Node :=
  (memberAt? node position).filter isFieldDeclaration

/-- A declarator of a field declaration in the body of the declaration at `site` stands at `place`. -/
def DeclaratorOf (root : Node) (site place : Place) (member declarator : Node) : Prop :=
  ∃ start position, MemberOf root site start member ∧ IsField member ∧
    place = start ++ [position] ∧ root.at? place = some declarator ∧
    declarator.hasField "declarator" = true

structure Describes (root : Node) (site : Place) (model : ClassModel) : Prop where
  declaration : ∃ node, root.at? site = some node ∧ model.name = fieldText node "name" ∧
    model.isInterface = (node.kind == "interface_declaration")
  outer : OuterName root site model.outerName
  methods : Enumerates (· < ·)
    (fun place => ∃ member, MemberOf root site place member ∧ IsMethod member)
    (fun place method => ∃ member, MemberOf root site place member ∧
      MethodFrom model.name member method)
    model.methods
  fields : Enumerates (· < ·)
    (fun place => ∃ member declarator, DeclaratorOf root site place member declarator)
    (fun place field => ∃ member declarator, DeclaratorOf root site place member declarator ∧
      FieldFrom member declarator field)
    model.fields

variable {root node : Node} {site : Place} {outer : Option String}

theorem methods_described (here : root.at? site = some node)
    (declared : isTypeDeclaration node = true) :
    Enumerates (· < ·) (fun place => ∃ member, MemberOf root site place member ∧ IsMethod member)
      (fun place method => ∃ member, MemberOf root site place member ∧
        MethodFrom (fieldText node "name") member method)
      (classOf outer node).methods := by
  have table : Tabulates (· < ·) _ (classOf outer node).methods :=
    Syntax.tabulates_filter_map (members_tabulate node)
  have ordered : ∀ one other : Nat, one < other →
      site ++ [bodyIndex node, one] < site ++ [bodyIndex node, other] := by
    intro one other before
    apply List.append_left_lt
    simp [List.cons_lt_cons_iff, before]
  apply Syntax.enumerates_imp (Syntax.tabulates_renamed _ ordered table)
  · intro place
    simp only [member_of_iff here declared]
    constructor
    · rintro ⟨position, method, rfl, found⟩
      obtain ⟨member, present, made⟩ := Option.bind_eq_some_iff.mp found
      exact ⟨member, ⟨position, rfl, present⟩, (method_from made).1⟩
    · rintro ⟨member, ⟨position, rfl, present⟩, isMethod⟩
      obtain ⟨method, made⟩ := method_made isMethod
      exact ⟨position, method, rfl, Option.bind_eq_some_iff.mpr ⟨member, present, made⟩⟩
  · rintro place method ⟨position, rfl, found⟩
    obtain ⟨member, present, made⟩ := Option.bind_eq_some_iff.mp found
    exact ⟨member, (member_of_iff here declared).mpr ⟨position, rfl, present⟩, (method_from made).2⟩

theorem declarator_of_iff (here : root.at? site = some node)
    (declared : isTypeDeclaration node = true) {place : Place} {member declarator : Node} :
    DeclaratorOf root site place member declarator ↔
      ∃ first second, place = site ++ [bodyIndex node, first, second] ∧
        fieldMemberAt? node first = some member ∧ declaratorAt? member second = some declarator := by
  have isField : isFieldDeclaration member = true ↔ IsField member := by
    simp [isFieldDeclaration, IsField]
  have down : ∀ {start : Place} (second : Nat), MemberOf root site start member →
      root.at? (start ++ [second]) = member.children[second]? := by
    rintro start second ⟨-, -, -, -, -, -, -, reached, -⟩
    rw [Node.at_append, reached]
    simp [Node.at?]
  simp only [DeclaratorOf, fieldMemberAt?, declaratorAt?, Option.filter_eq_some_iff, isField]
  constructor
  · rintro ⟨start, second, own, field, rfl, reached, role⟩
    rw [down second own] at reached
    obtain ⟨first, rfl, present⟩ := (member_of_iff here declared).mp own
    exact ⟨first, second, by simp, ⟨present, field⟩, reached, role⟩
  · rintro ⟨first, second, rfl, ⟨present, field⟩, reached, role⟩
    have own := (member_of_iff here declared).mpr ⟨first, rfl, present⟩
    refine ⟨_, second, own, field, by simp, ?_, role⟩
    simpa using (down second own).trans reached

theorem fields_described (here : root.at? site = some node)
    (declared : isTypeDeclaration node = true) :
    Enumerates (· < ·)
      (fun place => ∃ member declarator, DeclaratorOf root site place member declarator)
      (fun place field => ∃ member declarator, DeclaratorOf root site place member declarator ∧
        FieldFrom member declarator field)
      (classOf outer node).fields := by
  have table : Tabulates (Prod.Lex (· < ·) (· < ·)) _ (classOf outer node).fields :=
    Syntax.tabulates_flat_map (Syntax.tabulates_filter (members_tabulate node)) fun member _ =>
      Syntax.tabulates_map (Syntax.tabulates_filter (Syntax.tabulates_list member.children))
  have ordered : ∀ one other : Nat × Nat, Prod.Lex (· < ·) (· < ·) one other →
      site ++ [bodyIndex node, one.1, one.2] < site ++ [bodyIndex node, other.1, other.2] := by
    intro one other before
    apply List.append_left_lt
    simpa [List.cons_lt_cons_iff] using Prod.lex_def.mp before
  simp only [declarator_of_iff here declared]
  apply Syntax.enumerates_imp (Syntax.tabulates_renamed _ ordered table)
  · intro place
    constructor
    · rintro ⟨⟨first, second⟩, field, rfl, found⟩
      obtain ⟨member, present, made⟩ := Option.bind_eq_some_iff.mp found
      obtain ⟨declarator, reached, -⟩ := Option.map_eq_some_iff.mp made
      exact ⟨member, declarator, first, second, rfl, present, reached⟩
    · rintro ⟨member, declarator, first, second, rfl, present, reached⟩
      exact ⟨⟨first, second⟩, _, rfl, Option.bind_eq_some_iff.mpr ⟨member, present,
        Option.map_eq_some_iff.mpr ⟨declarator, reached, rfl⟩⟩⟩
  · rintro place field ⟨⟨first, second⟩, rfl, found⟩
    obtain ⟨member, present, made⟩ := Option.bind_eq_some_iff.mp found
    obtain ⟨declarator, reached, rfl⟩ := Option.map_eq_some_iff.mp made
    exact ⟨member, declarator, ⟨first, second, rfl, present, reached⟩, rfl, rfl⟩

/-- Extraction keeps every class and interface of a tree once, in the order of the walk by a stack,
with the name of the nearest one around it and with the methods and fields of its own body. A member
has one owner, so it appears in one model only. -/
theorem declarations_extracted (root : Node) :
    root.visits.map (·.node) = root.walk ∧
    ∃ models, (Syntax.Tree.check { root }).map classes = .ok models ∧
      Enumerates (· < ·) (DeclaresAt root) (Describes root) models ∧
      ∀ place, (∃ site member, MemberOf root site place member) →
        ∃! site, ∃ member, MemberOf root site place member := by
  refine ⟨root.visits_nodes, classes root, rfl, ?_, ?_⟩
  · have table : Tabulates (· < ·) _ (classes root) :=
      Syntax.tabulates_map (Syntax.tabulates_filter root.visits_tabulate)
    apply Syntax.enumerates_imp table
    · intro place
      rw [DeclaresAt, ← Node.visit_node]
      cases met : root.visitAt? place with
      | none => simp [met]
      | some visit => simp [met]
    · intro site model found
      obtain ⟨visit, chosen, rfl⟩ := Option.map_eq_some_iff.mp found
      obtain ⟨met, declared⟩ := Option.filter_eq_some_iff.mp chosen
      have here : root.at? site = some visit.node := by
        rw [← Node.visit_node, met, Option.map_some]
      exact {
        declaration := ⟨visit.node, here, rfl, rfl⟩
        outer := enclosing_name_outer met
        methods := methods_described here declared
        fields := fields_described here declared }
  · rintro place ⟨site, member, own⟩
    exact ⟨site, ⟨member, own⟩, fun other shared => member_owner shared.choose_spec own⟩

end Models

end PatternInspector.Java
