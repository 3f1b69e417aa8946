import PatternInspector.Config.Check

/-!
What checks read. Issues apart, a check of nested records takes every setting from the end of one
path of keys and falls back to the default where the path leads nowhere.
-/
namespace PatternInspector

def Value.descend : List String → Value → Option Value
  | [], value => some value
  | key :: path, .mapping _ entries => (Value.lookup key entries).bind (descend path)
  | _ :: _, _ => none

namespace Config

variable {α β : Type}

/-- What a check makes of the value at the end of a path, or the default if there is none. -/
def readAt (path : List String) (default : α) (check : α → Value → Checked α) (data : Value) : α :=
  match data.descend path with
  | none => default
  | some value => (check default value).value

theorem bind_value (first : Checked α) (next : α → Checked β) :
    (first >>= next).value = (next first.value).value := rfl

theorem fold_value (step : β → α → Checked β) (items : List α) (state : β) :
    (items.foldlM step state).value =
      items.foldl (fun state item => (step state item).value) state := by
  induction items generalizing state with
  | nil => rfl
  | cons item items ih => rw [List.foldlM_cons, bind_value, ih, List.foldl_cons]

section Settings

variable {path : List String} {default : α} {check : α → Value → Checked α}
  {read : β → Value → Checked β}

-- A setting of a field is found one key deeper than in the field's own value.
theorem field_setting (setting : α → β) (label : Option Nat) (entries : Entries) (name : String)
    (inner : ∀ value, setting (check default value).value =
      readAt path (setting default) read value) :
    setting (field entries name default check).value =
      readAt (name :: path) (setting default) read (.mapping label entries) := by
  unfold field readAt Value.descend
  cases Value.lookup name entries with
  | none => rfl
  | some value => exact inner value

theorem field_value (label : Option Nat) (entries : Entries) (name : String) :
    (field entries name default check).value =
      readAt [name] default check (.mapping label entries) :=
  field_setting id label entries name fun _ => rfl

-- What is no record has none of its settings.
theorem record_setting (setting : α → β) {known : List String} {fill : α → Entries → Checked α}
    {key : String}
    (inner : ∀ label entries, setting (fill default entries).value =
      readAt (key :: path) (setting default) read (.mapping label entries)) (data : Value) :
    setting (record known fill default data).value =
      readAt (key :: path) (setting default) read data := by
  cases data with
  | mapping label entries => exact inner label entries
  | _ => rfl

theorem descend_append (first second : List String) (data : Value) :
    data.descend (first ++ second) = (data.descend first).bind (Value.descend second) := by
  induction first generalizing data with
  | nil => rfl
  | cons key first ih =>
      cases data with
      | mapping label entries =>
          simp only [List.cons_append, Value.descend]
          cases Value.lookup key entries with
          | none => rfl
          | some value => exact ih value
      | _ => rfl

theorem read_at_append (setting : α → β) (start : List String)
    (inner : ∀ value, setting (check default value).value =
      readAt path (setting default) read value) (data : Value) :
    setting (readAt start default check data) =
      readAt (start ++ path) (setting default) read data := by
  simp only [readAt, descend_append]
  cases data.descend start with
  | none => rfl
  | some value => exact inner value

end Settings

theorem to_except_value {checked : Checked α} {value : α} (accepted : checked.toExcept = .ok value) :
    checked.value = value := by
  unfold Checked.toExcept at accepted
  split at accepted
  next => exact Except.ok.inj accepted
  next => cases accepted

end Config

end PatternInspector
