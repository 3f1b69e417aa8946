import PatternInspector.Config.Check

/-!
Checks of data that stands for a model: mappings that may hold more than the model knows, with
fields that have to be there.
-/
namespace PatternInspector.Config

def checkText (fallback : String) : Value → Checked String
  | .string text => pure text
  | _ => .failed fallback .notAText

def checkNullable {α : Type} (start : α) (check : α → Value → Checked α) (_ : Option α) :
    Value → Checked (Option α)
  | .null => pure none
  | value => do return some (← check start value)

def checkItems {α : Type} (start : α) (check : α → Value → Checked α) (fallback : List α) :
    Value → Checked (List α)
  | .list _ items =>
      (items.zipIdx).mapM fun item => (check start item.1).under (.nat item.2)
  | _ => .failed fallback .notAList

def checkTexts : List String → Value → Checked (List String) := checkItems "" checkText

def requiredField {α : Type} (entries : Entries) (name : String) (fallback : α)
    (check : α → Value → Checked α) : Checked α :=
  match Value.lookup name entries with
  | none => (Checked.failed fallback .missingField).under (.string name)
  | some value => (check fallback value).under (.string name)

def openRecord {α : Type} (read : α → Entries → Checked α) (default : α) : Value → Checked α
  | .mapping _ entries => read default entries
  | _ => .failed default .notAMapping

end PatternInspector.Config
