import Mathlib.Data.List.Induction
import PatternInspector.Proofs.TypeScript.Size

/-!
Variables that are declared and never used. Each such name is reported once, where its last declarator
stands, and the names follow one another as their first declarators do.

First and last are meant in the order in which declarators are met: a declaration is met with all its
declarators, before anything that stands inside one of them. This is the order of the text, unless a
declarator follows another one in which names are declared as well.
-/
namespace PatternInspector.TypeScript

open PatternInspector.Syntax (Node Place Tabulates tabulates_entries tabulates_filter_map
  tabulates_flat_map tabulates_list enumerates_mem)
open PatternInspector.Syntax.Node (Visit)

section Meaning

/-- Where a declarator stands: the place of its declaration, and its position among the children. -/
abbrev Slot := Place × Nat

def Slot.place (slot : Slot) : Place := slot.1 ++ [slot.2]

/-- The node in that slot is a named child of a declaration of variables, and a declarator that has a
plain name. -/
structure Declares (root : Node) (slot : Slot) (declarator : Node) (name : Text) : Prop where
  within : ∃ declaration, root.at? slot.1 = some declaration ∧
    declaration.kind ∈ ["lexical_declaration", "variable_declaration"] ∧
    declaration.children[slot.2]? = some declarator
  named : declarator.label.isNamed = true
  kind : declarator.kind = "variable_declarator"
  plain : ∃ written, declarator.field? "name" = some written ∧ written.kind = "identifier" ∧
    written.label.text = name

def DeclaredIn (root : Node) (name : Text) (slot : Slot) : Prop :=
  ∃ declarator, Declares root slot declarator name

def NamesDeclarator (root : Node) (place : Place) : Prop :=
  ∃ outer index declarator, place = outer ++ [index] ∧ root.at? outer = some declarator ∧
    declarator.kind = "variable_declarator" ∧
    declarator.children.findIdx? (Node.hasField "name") = some index

/-- The name stands somewhere else than as the name of a declarator. -/
def Used (root : Node) (name : Text) : Prop :=
  ∃ place node, root.at? place = some node ∧
    node.kind ∈ ["identifier", "shorthand_property_identifier",
      "shorthand_property_identifier_pattern"] ∧
    node.label.text = name ∧ ¬ NamesDeclarator root place

def UnusedIn (root : Node) (slot : Slot) : Prop :=
  ∃ name, DeclaredIn root name slot ∧ ¬ Used root name

def MetBefore : Slot → Slot → Prop := Prod.Lex (· < ·) (· < ·)

def StandsBefore (first second : Slot) : Prop := Slot.place first < Slot.place second

def IsFirst (before : Slot → Slot → Prop) (holds : Slot → Prop) (slot : Slot) : Prop :=
  holds slot ∧ ∀ other, holds other → other ≠ slot → before slot other

def IsLast (before : Slot → Slot → Prop) (holds : Slot → Prop) (slot : Slot) : Prop :=
  holds slot ∧ ∀ other, holds other → other ≠ slot → before other slot

/-- The list has every unused variable once, with the start of its last declarator, in the order of the
first declarators. -/
structure ListsUnused (root : Node) (before : Slot → Slot → Prop) (found : List Declaration) :
    Prop where
  names : ∀ name, name ∈ found.map (·.name) ↔ (∃ slot, DeclaredIn root name slot) ∧ ¬ Used root name
  once : (found.map (·.name)).Nodup
  last : ∀ declaration ∈ found, ∃ slot declarator,
    IsLast before (DeclaredIn root declaration.name) slot ∧
    root.at? (Slot.place slot) = some declarator ∧
    declaration.line = declarator.line ∧ declaration.column = declarator.column
  order : found.Pairwise fun one other => ∃ slot slot',
    IsFirst before (DeclaredIn root one.name) slot ∧
    IsFirst before (DeclaredIn root other.name) slot' ∧ before slot slot'

/-- One unused variable is declared inside a sibling before the declarator of another. -/
def Interleaved (root : Node) : Prop :=
  ∃ (outer : Place) (index later : Nat) (inner : Place) (position : Nat), index < later ∧
    UnusedIn root (outer, later) ∧ UnusedIn root (outer ++ index :: inner, position)

end Meaning

section Redeclarations

def lastDeclarations (sites : List Declaration) : List Declaration :=
  sites.foldl (fun known site => declare site known) []

theorem last_declarations_concat (sites : List Declaration) (site : Declaration) :
    lastDeclarations (sites ++ [site]) = declare site (lastDeclarations sites) := by
  rw [lastDeclarations, List.foldl_append]
  rfl

theorem declare_names (site : Declaration) (known : List Declaration) :
    (declare site known).map (·.name) =
      if site.name ∈ known.map (·.name) then known.map (·.name)
      else known.map (·.name) ++ [site.name] := by
  induction known with
  | nil => rfl
  | cons first rest ih =>
      by_cases same : first.name = site.name
      · simp [declare, same]
      · rw [declare, if_neg same, List.map_cons, List.map_cons, ih]
        by_cases later : site.name ∈ rest.map (·.name)
        · rw [if_pos later, if_pos (List.mem_cons_of_mem _ later)]
        · have new : site.name ∉ first.name :: rest.map (·.name) := by
            rw [List.mem_cons, not_or]
            exact ⟨Ne.symm same, later⟩
          rw [if_neg later, if_neg new, List.cons_append]

theorem mem_last_names {sites : List Declaration} {name : Text} :
    name ∈ (lastDeclarations sites).map (·.name) ↔ name ∈ sites.map (·.name) := by
  induction sites using List.reverseRecOn with
  | nil => rfl
  | append_singleton sites site ih =>
      rw [last_declarations_concat, declare_names, List.map_append, List.mem_append,
        List.map_singleton]
      by_cases known : site.name ∈ (lastDeclarations sites).map (·.name)
      · rw [if_pos known, ih, List.mem_singleton, iff_self_or]
        rintro rfl
        exact ih.mp known
      · rw [if_neg known, List.mem_append, ih]

-- Of two names in the list, the first is declared before the second is for the first time.
theorem last_names_order (sites : List Declaration) :
    ((lastDeclarations sites).map (·.name)).Pairwise fun one other =>
      ∃ front back, sites.map (·.name) = front ++ other :: back ∧ one ∈ front ∧ other ∉ front := by
  induction sites using List.reverseRecOn with
  | nil => exact List.Pairwise.nil
  | append_singleton sites site ih =>
      have longer : ((lastDeclarations sites).map (·.name)).Pairwise fun one other =>
          ∃ front back, (sites ++ [site]).map (·.name) = front ++ other :: back ∧ one ∈ front ∧
            other ∉ front := by
        apply ih.imp
        rintro one other ⟨front, back, split, sooner, first⟩
        exact ⟨front, back ++ [site.name], by simp [split], sooner, first⟩
      rw [last_declarations_concat, declare_names]
      by_cases known : site.name ∈ (lastDeclarations sites).map (·.name)
      · rw [if_pos known]
        exact longer
      · rw [if_neg known, List.pairwise_append]
        refine ⟨longer, List.pairwise_singleton _ _, ?_⟩
        intro one member other last
        rw [List.mem_singleton.mp last]
        exact ⟨sites.map (·.name), [], by simp, mem_last_names.mp member,
          fun given => known (mem_last_names.mpr given)⟩

theorem last_names_distinct (sites : List Declaration) :
    ((lastDeclarations sites).map (·.name)).Nodup := by
  apply (last_names_order sites).imp
  rintro one other ⟨front, back, -, sooner, first⟩ rfl
  exact first sooner

-- Names stand in the list once, so the one that is unrepeated is the only one of its name.
theorem mem_declare {site declaration : Declaration} {known : List Declaration}
    (distinct : (known.map (·.name)).Nodup) (member : declaration ∈ declare site known) :
    declaration = site ∨ declaration ∈ known ∧ declaration.name ≠ site.name := by
  induction known with
  | nil => exact Or.inl (List.mem_singleton.mp member)
  | cons first rest ih =>
      rw [List.map_cons, List.nodup_cons] at distinct
      by_cases same : first.name = site.name
      · rw [declare, if_pos same, List.mem_cons] at member
        rcases member with own | later
        · exact Or.inl own
        · apply Or.inr
          constructor
          · exact List.mem_cons_of_mem _ later
          · intro equal
            apply distinct.1
            rw [same, ← equal]
            exact List.mem_map_of_mem later
      · rw [declare, if_neg same, List.mem_cons] at member
        rcases member with rfl | later
        · exact Or.inr ⟨List.mem_cons_self, same⟩
        · rcases ih distinct.2 later with own | ⟨kept, other⟩
          · exact Or.inl own
          · exact Or.inr ⟨List.mem_cons_of_mem _ kept, other⟩

theorem mem_last_declarations {sites : List Declaration} {declaration : Declaration}
    (member : declaration ∈ lastDeclarations sites) :
    ∃ front back, sites = front ++ declaration :: back ∧
      ∀ later ∈ back, later.name ≠ declaration.name := by
  induction sites using List.reverseRecOn with
  | nil => exact absurd member List.not_mem_nil
  | append_singleton sites site ih =>
      rw [last_declarations_concat] at member
      rcases mem_declare (last_names_distinct sites) member with rfl | ⟨known, other⟩
      · exact ⟨sites, [], rfl, by simp⟩
      · obtain ⟨front, back, split, unrepeated⟩ := ih known
        refine ⟨front, back ++ [site], by simp [split], ?_⟩
        intro later member
        rcases List.mem_append.mp member with inside | last
        · exact unrepeated later inside
        · rw [List.mem_singleton.mp last]
          exact Ne.symm other

end Redeclarations

section Sites

def siteOf? (child : Node) : Option Declaration :=
  if child.label.isNamed && child.kind == "variable_declarator" then declarationOf? child else none

def declarationMet? (visit : Visit) : Option Node :=
  if isVariableDeclaration visit.node then some visit.node else none

def siteIn? (root : Node) (slot : Slot) : Option Declaration :=
  ((root.visitAt? slot.1).bind declarationMet?).bind fun declaration =>
    (declaration.children[slot.2]?).bind siteOf?

theorem declarations_met (root : Node) :
    root.visits.filterMap declarationMet? = root.walk.filter isVariableDeclaration := by
  rw [← Node.visits_nodes, ← List.filterMap_eq_filter, List.filterMap_map]
  apply List.filterMap_congr
  intro visit _
  simp [declarationMet?, Option.guard]

theorem sites_of_children (declaration : Node) :
    (declarators declaration).filterMap declarationOf? = declaration.children.filterMap siteOf? := by
  rw [declarators, Node.namedChildren, List.filter_filter, List.filterMap_filter]
  apply List.filterMap_congr
  intro child _
  simp only [siteOf?, Bool.and_comm]

theorem sites_tabulate (root : Node) :
    Tabulates MetBefore (siteIn? root) (declarationSites root) := by
  rw [declarationSites, ← declarations_met]
  have each : ∀ declaration ∈ root.visits.filterMap declarationMet?,
      Tabulates (· < ·) (fun index : Nat => (declaration.children[index]?).bind siteOf?)
        ((declarators declaration).filterMap declarationOf?) := by
    intro declaration _
    rw [sites_of_children]
    exact tabulates_filter_map (tabulates_list declaration.children)
  exact tabulates_flat_map (tabulates_filter_map root.visits_tabulate) each

theorem declared_name_iff {declarator : Node} {name : Text} :
    declaredName? declarator = some name ↔ ∃ written, declarator.field? "name" = some written ∧
      written.kind = "identifier" ∧ written.label.text = name := by
  rw [declaredName?]
  cases declarator.field? "name" with
  | none => simp
  | some written => simp

theorem site_of_iff {child : Node} {site : Declaration} :
    siteOf? child = some site ↔ (child.label.isNamed = true ∧ child.kind = "variable_declarator") ∧
      declaredName? child = some site.name ∧ site.line = child.line ∧ site.column = child.column := by
  obtain ⟨name, line, column⟩ := site
  rw [siteOf?, Option.ite_none_right_eq_some, Bool.and_eq_true, beq_iff_eq, declarationOf?,
    Option.map_eq_some_iff]
  apply and_congr_right
  intro _
  constructor
  · rintro ⟨_, declared, same⟩
    cases same
    exact ⟨declared, rfl, rfl⟩
  · rintro ⟨declared, rfl, rfl⟩
    exact ⟨name, declared, rfl⟩

theorem declaration_met_iff {root declaration : Node} {place : Place} :
    (root.visitAt? place).bind declarationMet? = some declaration ↔
      root.at? place = some declaration ∧
        declaration.kind ∈ ["lexical_declaration", "variable_declaration"] := by
  rw [← Node.visit_node]
  cases root.visitAt? place with
  | none => simp
  | some visit =>
      simp only [Option.bind_some, Option.map_some, declarationMet?, Option.ite_none_right_eq_some,
        isVariableDeclaration, List.contains_iff_mem, Option.some.injEq]
      constructor
      · rintro ⟨kind, rfl⟩
        exact ⟨rfl, kind⟩
      · rintro ⟨rfl, kind⟩
        exact ⟨kind, rfl⟩

theorem site_in_iff {root : Node} {slot : Slot} {site : Declaration} :
    siteIn? root slot = some site ↔ ∃ declarator, Declares root slot declarator site.name ∧
      site.line = declarator.line ∧ site.column = declarator.column := by
  simp only [siteIn?, Option.bind_eq_some_iff (x := (root.visitAt? slot.1).bind declarationMet?)]
  constructor
  · rintro ⟨declaration, met, found⟩
    obtain ⟨declarator, child, made⟩ := Option.bind_eq_some_iff.mp found
    obtain ⟨here, kind⟩ := declaration_met_iff.mp met
    obtain ⟨⟨named, declares⟩, written, start⟩ := site_of_iff.mp made
    exact ⟨declarator, ⟨⟨declaration, here, kind, child⟩, named, declares,
      declared_name_iff.mp written⟩, start⟩
  · rintro ⟨declarator, ⟨⟨declaration, here, kind, child⟩, named, declares, written⟩, start⟩
    refine ⟨declaration, declaration_met_iff.mpr ⟨here, kind⟩, Option.bind_eq_some_iff.mpr ?_⟩
    exact ⟨declarator, child, site_of_iff.mpr ⟨⟨named, declares⟩, declared_name_iff.mpr written,
      start⟩⟩

theorem declared_in_iff {root : Node} {name : Text} {slot : Slot} :
    DeclaredIn root name slot ↔ ∃ site, siteIn? root slot = some site ∧ site.name = name := by
  constructor
  · rintro ⟨declarator, declares⟩
    exact ⟨⟨name, declarator.line, declarator.column⟩,
      site_in_iff.mpr ⟨declarator, declares, rfl, rfl⟩, rfl⟩
  · rintro ⟨site, found, rfl⟩
    obtain ⟨declarator, declares, -⟩ := site_in_iff.mp found
    exact ⟨declarator, declares⟩

theorem declarator_at {root declarator : Node} {slot : Slot} {name : Text}
    (declares : Declares root slot declarator name) : root.at? (Slot.place slot) = some declarator := by
  obtain ⟨declaration, here, -, child⟩ := declares.within
  simp [Slot.place, Node.at_append, here, Node.at?, child]

theorem site_of_declarator {root declarator : Node} {slot : Slot} {name : Text}
    (declared : DeclaredIn root name slot) (here : root.at? (Slot.place slot) = some declarator) :
    siteIn? root slot = some ⟨name, declarator.line, declarator.column⟩ := by
  obtain ⟨found, declares⟩ := declared
  obtain rfl : found = declarator := Option.some.inj ((declarator_at declares).symm.trans here)
  exact site_in_iff.mpr ⟨found, declares, rfl, rfl⟩

theorem site_unique {root : Node} (distinct : (declarationSites root).Nodup) {one other : Slot}
    {site : Declaration} (here : siteIn? root one = some site)
    (there : siteIn? root other = some site) : one = other := by
  obtain ⟨entries, sites, -, complete⟩ := tabulates_entries (sites_tabulate root)
  rw [← sites] at distinct
  exact congrArg Prod.fst (List.inj_on_of_nodup_map distinct ((complete one site).mpr here)
    ((complete other site).mpr there) rfl)

end Sites

section Uses

theorem names_declarator_iff {root : Node} {place : Place} {visit : Visit}
    (met : root.visitAt? place = some visit) :
    visit.isFieldOf "variable_declarator" "name" = true ↔ NamesDeclarator root place := by
  rcases List.eq_nil_or_concat place with rfl | ⟨outer, last, rfl⟩
  · obtain rfl := Option.some.inj met
    constructor
    · intro impossible
      cases impossible
    · rintro ⟨outer, index, declarator, root, -⟩
      simp at root
  · rw [List.concat_eq_append] at met ⊢
    rw [Node.visit_below] at met
    obtain ⟨above, reached, child⟩ := Option.bind_eq_some_iff.mp met
    obtain ⟨node, -, rfl⟩ := Option.map_eq_some_iff.mp child
    have parent : root.at? outer = some above.node := by
      rw [← Node.visit_node, reached, Option.map_some]
    rw [Visit.isFieldOf, Visit.parent, List.head?_cons]
    dsimp only
    rw [Bool.and_eq_true, beq_iff_eq, beq_iff_eq]
    constructor
    · rintro ⟨kind, role⟩
      exact ⟨outer, last, above.node, rfl, parent, kind, role⟩
    · rintro ⟨outer', index, declarator, same, found, kind, role⟩
      obtain ⟨rfl, rfl⟩ := List.append_singleton_inj.mp same
      obtain rfl : above.node = declarator := Option.some.inj (parent.symm.trans found)
      exact ⟨kind, role⟩

theorem used_iff {root : Node} {name : Text} : name ∈ usedNames root ↔ Used root name := by
  rw [usedNames, List.mem_map]
  constructor
  · rintro ⟨visit, member, rfl⟩
    obtain ⟨visited, use⟩ := List.mem_filter.mp member
    obtain ⟨place, met⟩ := Node.mem_visits.mp visited
    have node : root.at? place = some visit.node := by rw [← Node.visit_node, met, Option.map_some]
    rw [isNameUse, Bool.and_eq_true, List.contains_iff_mem, Bool.not_eq_true'] at use
    refine ⟨place, visit.node, node, use.1, rfl, ?_⟩
    rw [← names_declarator_iff met, use.2]
    exact Bool.false_ne_true
  · rintro ⟨place, node, here, kind, rfl, elsewhere⟩
    rw [← Node.visit_node, Option.map_eq_some_iff] at here
    obtain ⟨visit, met, rfl⟩ := here
    rw [← names_declarator_iff met, Bool.not_eq_true] at elsewhere
    refine ⟨visit, List.mem_filter.mpr ⟨Node.mem_visits.mpr ⟨place, met⟩, ?_⟩, rfl⟩
    rw [isNameUse, elsewhere, Bool.and_eq_true, List.contains_iff_mem]
    exact ⟨kind, rfl⟩

end Uses

section Order

variable {root : Node}

section Entries

variable {entries : List (Slot × Declaration)}
  (ordered : entries.Pairwise fun first second => MetBefore first.1 second.1)
  (complete : ∀ slot site, (slot, site) ∈ entries ↔ siteIn? root slot = some site)

include ordered complete

-- All declarators of a name stand before the last entry of that name, in the order of the entries.
theorem last_slot {front back : List Declaration} {site : Declaration}
    (split : entries.map Prod.snd = front ++ site :: back)
    (unrepeated : ∀ later ∈ back, later.name ≠ site.name) :
    ∃ slot, siteIn? root slot = some site ∧ IsLast MetBefore (DeclaredIn root site.name) slot := by
  obtain ⟨before, others, rfl, rfl, rest⟩ := List.map_eq_append_iff.mp split
  obtain ⟨⟨slot, site⟩, after, rfl, rfl, rfl⟩ := List.map_eq_cons_iff.mp rest
  have here := (complete slot site).mp (by simp)
  refine ⟨slot, here, declared_in_iff.mpr ⟨site, here, rfl⟩, ?_⟩
  intro other declared different
  obtain ⟨found, known, same⟩ := declared_in_iff.mp declared
  rcases List.mem_append.mp ((complete other found).mpr known) with sooner | present
  · exact (List.pairwise_append.mp ordered).2.2 _ sooner _ List.mem_cons_self
  · rcases List.mem_cons.mp present with equal | later
    · exact absurd (congrArg Prod.fst equal) different
    · exact absurd same (unrepeated found (List.mem_map_of_mem later))

theorem first_slot {front back : List Text} {name : Text}
    (split : (entries.map Prod.snd).map (·.name) = front ++ name :: back) (new : name ∉ front) :
    ∃ slot, IsFirst MetBefore (DeclaredIn root name) slot ∧
      ∀ other ∈ front, ∃ sooner, DeclaredIn root other sooner ∧ MetBefore sooner slot := by
  rw [List.map_map] at split
  obtain ⟨before, others, rfl, rfl, rest⟩ := List.map_eq_append_iff.mp split
  obtain ⟨⟨slot, site⟩, after, rfl, rfl, rfl⟩ := List.map_eq_cons_iff.mp rest
  obtain ⟨-, later, across⟩ := List.pairwise_append.mp ordered
  have here := (complete slot site).mp (by simp)
  refine ⟨slot, ⟨declared_in_iff.mpr ⟨site, here, rfl⟩, ?_⟩, ?_⟩
  · intro other declared different
    obtain ⟨found, known, same⟩ := declared_in_iff.mp declared
    rcases List.mem_append.mp ((complete other found).mpr known) with sooner | present
    · exact absurd (List.mem_map.mpr ⟨_, sooner, same⟩) new
    · rcases List.mem_cons.mp present with equal | after
      · exact absurd (congrArg Prod.fst equal) different
      · exact (List.pairwise_cons.mp later).1 _ after
  · intro other member
    obtain ⟨⟨sooner, found⟩, present, rfl⟩ := List.mem_map.mp member
    have known := (complete sooner found).mp (List.mem_append_left _ present)
    exact ⟨sooner, declared_in_iff.mpr ⟨found, known, rfl⟩, across _ present _ List.mem_cons_self⟩

end Entries

theorem first_before {name : Text} {first second slot : Slot}
    (isFirst : IsFirst MetBefore (DeclaredIn root name) first)
    (declared : DeclaredIn root name slot) (sooner : MetBefore slot second) :
    MetBefore first second := by
  by_cases same : slot = first
  · rwa [← same]
  · exact Prod.Lex.trans (isFirst.2 slot declared same) sooner

theorem declarations_last {declaration : Declaration} (member : declaration ∈ declarations root) :
    ∃ slot, siteIn? root slot = some declaration ∧
      IsLast MetBefore (DeclaredIn root declaration.name) slot := by
  obtain ⟨entries, sites, ordered, complete⟩ := tabulates_entries (sites_tabulate root)
  obtain ⟨front, back, split, unrepeated⟩ := mem_last_declarations member
  exact last_slot ordered complete (sites.trans split) unrepeated

theorem declarations_order (root : Node) :
    (declarations root).Pairwise fun one other => ∃ slot slot',
      IsFirst MetBefore (DeclaredIn root one.name) slot ∧
      IsFirst MetBefore (DeclaredIn root other.name) slot' ∧ MetBefore slot slot' := by
  obtain ⟨entries, sites, ordered, complete⟩ := tabulates_entries (sites_tabulate root)
  apply (List.pairwise_map.mp (last_names_order (declarationSites root))).imp
  rintro one other ⟨front, back, split, sooner, new⟩
  have present : one.name ∈ (declarationSites root).map (·.name) := by
    rw [split]
    exact List.mem_append_left _ sooner
  obtain ⟨front', back', split', new'⟩ := List.eq_append_cons_of_mem present
  rw [← sites] at split split'
  obtain ⟨slot, first, -⟩ := first_slot ordered complete split' new'
  obtain ⟨slot', first', earlier⟩ := first_slot ordered complete split new
  obtain ⟨between, declared, before⟩ := earlier one.name sooner
  exact ⟨slot, slot', first, first', first_before first declared before⟩

theorem mem_declaration_names {name : Text} :
    name ∈ (declarations root).map (·.name) ↔ ∃ slot, DeclaredIn root name slot := by
  obtain ⟨entries, sites, -, complete⟩ := tabulates_entries (sites_tabulate root)
  refine mem_last_names.trans ?_
  rw [← sites, List.map_map, List.mem_map]
  constructor
  · rintro ⟨⟨slot, site⟩, member, rfl⟩
    exact ⟨slot, declared_in_iff.mpr ⟨site, (complete slot site).mp member, rfl⟩⟩
  · rintro ⟨slot, declared⟩
    obtain ⟨site, found, same⟩ := declared_in_iff.mp declared
    exact ⟨(slot, site), (complete slot site).mpr found, same⟩

theorem mem_unused_iff {declaration : Declaration} :
    declaration ∈ unusedDeclarations root ↔
      declaration ∈ declarations root ∧ ¬ Used root declaration.name := by
  rw [unusedDeclarations, List.mem_filter, Bool.not_eq_true', ← Bool.not_eq_true,
    List.contains_iff_mem, used_iff]

theorem unused_listed (root : Node) : ListsUnused root MetBefore (unusedDeclarations root) where
  names := by
    intro name
    rw [← mem_declaration_names, List.mem_map, List.mem_map]
    constructor
    · rintro ⟨declaration, member, rfl⟩
      obtain ⟨known, unused⟩ := mem_unused_iff.mp member
      exact ⟨⟨declaration, known, rfl⟩, unused⟩
    · rintro ⟨⟨declaration, known, rfl⟩, unused⟩
      exact ⟨declaration, mem_unused_iff.mpr ⟨known, unused⟩, rfl⟩
  once := (last_names_distinct (declarationSites root)).sublist (List.filter_sublist.map _)
  last := by
    intro declaration member
    obtain ⟨slot, found, last⟩ := declarations_last (mem_unused_iff.mp member).1
    obtain ⟨declarator, declares, start⟩ := site_in_iff.mp found
    exact ⟨slot, declarator, last, declarator_at declares, start⟩
  order := (declarations_order root).filter _

end Order

section Interleaving

-- A place comes before those below it, so only a later child can be overtaken by what is below.
theorem place_before {first second : Place} (before : first < second) (later position : Nat) :
    first ++ [later] < second ++ [position] ∨
      ∃ index inner, second = first ++ index :: inner ∧ index < later := by
  induction first generalizing second with
  | nil =>
      cases second with
      | nil => exact absurd before (List.not_lt_nil _)
      | cons index inner =>
          rcases Nat.lt_trichotomy later index with less | same | more
          · exact Or.inl (List.cons_lt_cons_iff.mpr (Or.inl less))
          · refine Or.inl (List.cons_lt_cons_iff.mpr (Or.inr ⟨same, ?_⟩))
            cases inner <;> exact List.nil_lt_cons _ _
          · exact Or.inr ⟨index, inner, rfl, more⟩
  | cons start first ih =>
      cases second with
      | nil => exact absurd before (List.not_lt_nil _)
      | cons index second =>
          rcases List.cons_lt_cons_iff.mp before with less | ⟨rfl, below⟩
          · exact Or.inl (List.cons_lt_cons_iff.mpr (Or.inl less))
          · rcases ih below with sooner | ⟨index, inner, rfl, more⟩
            · exact Or.inl (List.cons_lt_cons_iff.mpr (Or.inr ⟨rfl, sooner⟩))
            · exact Or.inr ⟨index, inner, rfl, more⟩

theorem stands_before {root : Node} (apart : ¬ Interleaved root) {first second : Slot}
    (one : UnusedIn root first) (other : UnusedIn root second) (met : MetBefore first second) :
    StandsBefore first second := by
  obtain ⟨outer, later⟩ := first
  obtain ⟨place, position⟩ := second
  rcases Prod.lex_def.mp met with before | ⟨rfl, less⟩
  · rcases place_before before later position with sooner | ⟨index, inner, rfl, more⟩
    · exact sooner
    · exact absurd ⟨outer, index, later, inner, position, more, one, other⟩ apart
  · exact List.append_left_lt (List.cons_lt_cons_iff.mpr (Or.inl less))

theorem lists_unused_imp {root : Node} {before before' : Slot → Slot → Prop}
    {found : List Declaration} (lists : ListsUnused root before found)
    (weaker : ∀ first second, UnusedIn root first → UnusedIn root second → before first second →
      before' first second) : ListsUnused root before' found where
  names := lists.names
  once := lists.once
  last := by
    intro declaration member
    have unused := ((lists.names _).mp (List.mem_map_of_mem member)).2
    obtain ⟨slot, declarator, ⟨declared, others⟩, start⟩ := lists.last declaration member
    refine ⟨slot, declarator, ⟨declared, ?_⟩, start⟩
    intro other present different
    exact weaker other slot ⟨_, present, unused⟩ ⟨_, declared, unused⟩ (others other present different)
  order := by
    apply lists.order.imp_of_mem
    rintro one other member member' ⟨slot, slot', first, first', sooner⟩
    have unused := ((lists.names _).mp (List.mem_map_of_mem member)).2
    have unused' := ((lists.names _).mp (List.mem_map_of_mem member')).2
    refine ⟨slot, slot', ⟨first.1, ?_⟩, ⟨first'.1, ?_⟩,
      weaker slot slot' ⟨_, first.1, unused⟩ ⟨_, first'.1, unused'⟩ sooner⟩
    · intro between present different
      exact weaker _ _ ⟨_, first.1, unused⟩ ⟨_, present, unused⟩ (first.2 _ present different)
    · intro between present different
      exact weaker _ _ ⟨_, first'.1, unused'⟩ ⟨_, present, unused'⟩ (first'.2 _ present different)

end Interleaving

section Reports

theorem filter_smells (rules : CodeSmellRules) (root : Node) (code : Text) :
    (checkSmells rules root code).filter (·.rule == "code-smell-unused-variable") =
      if rules.detectDeadCode then (unusedDeclarations root).map (unusedViolation rules.severity)
      else [] := by
  have repeated : (if rules.detectDuplication then checkDuplication code else []).filter
      (·.rule == "code-smell-unused-variable") = [] := by
    apply filter_if_nil
    intro violation member
    simp [show violation.rule = _ from congrArg Prod.fst (duplication_kind member)]
  have sparse : (checkComments code).filter (·.rule == "code-smell-unused-variable") = [] := by
    rw [List.filter_eq_nil_iff]
    intro violation member
    simp [show violation.rule = _ from congrArg Prod.fst (comments_kind member)]
  rw [checkSmells, List.filter_append, List.filter_append, repeated, sparse, List.append_nil,
    List.append_nil, List.filter_eq_self]
  intro violation member
  obtain ⟨declaration, -, rfl⟩ := List.mem_map.mp (List.mem_ite_nil_right.mp member).2
  rfl

theorem filter_unused (rules : Rules) (root : Node) (code : Text) :
    (violations rules root code).filter (·.rule == "code-smell-unused-variable") =
      if rules.codeSmells.enabled && rules.codeSmells.detectDeadCode then
        (unusedDeclarations root).map (unusedViolation rules.codeSmells.severity)
      else [] := by
  have names : (if rules.naming.enabled then checkNames rules.naming root else []).filter
      (·.rule == "code-smell-unused-variable") = [] := by
    apply filter_if_nil
    intro violation member
    have other : ∀ kind ∈ namingKinds, ¬ (kind.1 == "code-smell-unused-variable") = true := by decide
    exact other violation.kind (names_filed _ _ violation member)
  have sizes : (if rules.solid.enabled then checkSizes rules root else []).filter
      (·.rule == "code-smell-unused-variable") = [] := by
    apply filter_if_nil
    intro violation member
    obtain ⟨site, -, node, -, reported⟩ := enumerates_mem (sizes_enumerate rules root) member
    rw [reported.rule]
    by_cases method : node.kind = "method_definition"
    · cases site.2 <;> simp [Excess.rule, method]
    · cases site.2 <;> simp [Excess.rule, method]
  rw [violations, List.filter_append, List.filter_append, names, sizes, List.append_nil,
    List.nil_append]
  by_cases enabled : rules.codeSmells.enabled = true
  · simp [enabled, filter_smells]
  · simp [enabled]

/-- The reports on unused variables: every name that is declared and not used, once, at its last
declarator, in the order of the first ones. What is first and last is told by the order in which
declarators are met, which is that of a walk if unused variables are not interleaved. -/
theorem unused_variables_exact (rules : Rules) (filename : String) (code : Text) (root : Node) :
    (reportOnTree rules filename code (.ok root)).violations.filter
        (·.rule == "code-smell-unused-variable") =
      (if rules.codeSmells.enabled && rules.codeSmells.detectDeadCode then
        (unusedDeclarations root).map (unusedViolation rules.codeSmells.severity)
      else []) ∧
    ListsUnused root MetBefore (unusedDeclarations root) ∧
    (¬ Interleaved root → ListsUnused root StandsBefore (unusedDeclarations root)) := by
  refine ⟨filter_unused rules root code, unused_listed root, ?_⟩
  intro apart
  apply lists_unused_imp (unused_listed root)
  intro first second one other met
  exact stands_before apart one other met

def interleavedTree : Node :=
  (parse .plain "var a = function () \x7b var a = 1; \x7d, a = 2;".toList).toOption.getD default

/-- The last declarator of the name stands in column 37, after the one that is reported. -/
theorem inner_redeclaration_reported :
    (unusedDeclarations interleavedTree = [⟨"a".toList, 1, 27⟩]) ∧
    DeclaredIn interleavedTree "a".toList ([0], 3) ∧
    ¬ ListsUnused interleavedTree StandsBefore (unusedDeclarations interleavedTree) := by
  have evaluated : unusedDeclarations interleavedTree = [⟨"a".toList, 1, 27⟩] ∧
      siteIn? interleavedTree ([0], 3) = some ⟨"a".toList, 1, 37⟩ ∧
      siteIn? interleavedTree ([0, 1, 2, 2, 1], 1) = some ⟨"a".toList, 1, 27⟩ ∧
      (declarationSites interleavedTree).Nodup := by
    decide +kernel
  obtain ⟨found, outer, inner, distinct⟩ := evaluated
  have declaredOuter := declared_in_iff.mpr ⟨_, outer, rfl⟩
  refine ⟨found, declaredOuter, ?_⟩
  intro lists
  obtain ⟨slot, declarator, ⟨declared, others⟩, here, line, column⟩ :=
    lists.last ⟨"a".toList, 1, 27⟩ (found ▸ List.mem_singleton_self _)
  have made := site_of_declarator declared here
  rw [← line, ← column] at made
  obtain rfl := site_unique distinct made inner
  have outside : ¬ ([0, 3] : Place) < [0, 1, 2, 2, 1, 1] := by decide
  exact outside (others _ declaredOuter (by decide))

end Reports

end PatternInspector.TypeScript
