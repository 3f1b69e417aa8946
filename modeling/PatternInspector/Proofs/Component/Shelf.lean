import PatternInspector.Component.Split

/-!
Where a descriptor keeps its blocks. Every block has one shelf; assigning a block puts it behind the
others of its shelf and leaves all other shelves as they are. A shelf with one place takes no second
block.
-/
namespace PatternInspector.Component

section Shelves

inductive Shelf where
  | template
  | script
  | scriptSetup
  | styles
  | customBlocks
  deriving DecidableEq

def Shelf.isSingle : Shelf → Bool
  | template | script | scriptSetup => true
  | styles | customBlocks => false

def Block.shelf (block : Block) : Shelf :=
  if block.kind = "template" then .template
  else if block.kind = "script" then if block.isSetup then .scriptSetup else .script
  else if block.kind = "style" then .styles
  else .customBlocks

def Descriptor.held (descriptor : Descriptor) : Shelf → List Block
  | .template => descriptor.template.toList
  | .script => descriptor.script.toList
  | .scriptSetup => descriptor.scriptSetup.toList
  | .styles => descriptor.styles
  | .customBlocks => descriptor.customBlocks

def onShelf (shelf : Shelf) (blocks : List Block) : List Block :=
  blocks.filter fun block => decide (block.shelf = shelf)

end Shelves

section Assignment

variable {descriptor extended : Descriptor} {block : Block}

theorem on_shelf_single (block : Block) (shelf : Shelf) :
    onShelf shelf [block] = if block.shelf = shelf then [block] else [] := by
  by_cases same : block.shelf = shelf <;> simp [onShelf, same]

theorem on_shelf_cons (shelf : Shelf) (block : Block) (others : List Block) :
    onShelf shelf (block :: others) = onShelf shelf [block] ++ onShelf shelf others :=
  List.filter_append [block] others

theorem assign_by_shelf (descriptor : Descriptor) (block : Block) :
    assign descriptor block =
      match block.shelf with
      | .template =>
          if descriptor.template.isSome then .error .template
          else .ok { descriptor with template := some block }
      | .script =>
          if descriptor.script.isSome then .error .script
          else .ok { descriptor with script := some block }
      | .scriptSetup =>
          if descriptor.scriptSetup.isSome then .error .scriptSetup
          else .ok { descriptor with scriptSetup := some block }
      | .styles => .ok { descriptor with styles := descriptor.styles ++ [block] }
      | .customBlocks => .ok { descriptor with customBlocks := descriptor.customBlocks ++ [block] } := by
  unfold assign Block.shelf
  by_cases template : block.kind = "template"
  · simp [template]
  by_cases script : block.kind = "script"
  · cases block.isSetup <;> simp [script]
  by_cases style : block.kind = "style"
  · simp [style]
  · simp [template, script, style]

theorem assign_held (assigned : assign descriptor block = .ok extended) :
    extended.filename = descriptor.filename ∧
      ∀ shelf, extended.held shelf = descriptor.held shelf ++ onShelf shelf [block] := by
  simp only [on_shelf_single]
  rw [assign_by_shelf] at assigned
  cases own : block.shelf <;> simp only [own] at assigned
  case template | script | scriptSetup =>
    split at assigned
    next => cases assigned
    next free =>
      cases assigned
      refine ⟨rfl, fun shelf => ?_⟩
      cases shelf <;> simp_all [Descriptor.held]
  case styles | customBlocks =>
    cases assigned
    refine ⟨rfl, fun shelf => ?_⟩
    cases shelf <;> simp [Descriptor.held]

theorem assign_room (room : block.shelf.isSingle = true → descriptor.held block.shelf = []) :
    ∃ extended, assign descriptor block = .ok extended := by
  rw [assign_by_shelf]
  cases own : block.shelf <;> simp only [own, Shelf.isSingle, Descriptor.held] at room ⊢
  case template | script | scriptSetup =>
    have free := Option.toList_eq_nil_iff.mp (room trivial)
    exact ⟨_, if_neg (by simp [free])⟩
  case styles | customBlocks => exact ⟨_, rfl⟩

end Assignment

end PatternInspector.Component
