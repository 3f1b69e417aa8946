import PatternInspector.Proofs.Config.Reading

/-!
Schemas of configuration data. A schema lists its settings with their places and defaults, and the
mappings on the way to them with the keys they may have. Data is flawed if it breaks the schema
somewhere; from any other data, validation takes what is given and fills in the rest.
-/
namespace PatternInspector.Config

section Settings

def boolOf? : Value → Option Bool
  | .bool truth => some truth
  | .int number => boolOfInt? number
  | .decimal number => (wholeNumber? number).bind boolOfInt?
  | .string text => boolOfText? text
  | _ => none

def labelOf? (labels : List String) : Value → Option String
  | .string text => if text ∈ labels then some text else none
  | _ => none

def positiveOf? (value : Value) : Option Nat :=
  match integerOf value with
  | .ok number => if 0 < number then some number.toNat else none
  | .error _ => none

/-- What a setting may hold, and what it holds if it is left out. -/
inductive Setting where
  | switch (default : Bool)
  | choice (labels : List String) (default : String) (listed : default ∈ labels)
  | threshold (default : Nat) (positive : 0 < default)

namespace Setting

def default : Setting → Value
  | .switch truth => .bool truth
  | .choice _ label _ => .string label
  | .threshold number _ => .nat number

/-- What a setting holds if a value is given for it; none if it does not accept the value. -/
def coerce : Setting → Value → Option Value
  | .switch _, value => (boolOf? value).map .bool
  | .choice labels _ _, value => (labelOf? labels value).map .string
  | .threshold .., value => (positiveOf? value).map .nat

def resolve (setting : Setting) : Option Value → Value
  | none => setting.default
  | some value => (setting.coerce value).getD setting.default

theorem label_of_listed {labels : List String} {text : String} (listed : text ∈ labels) :
    labelOf? labels (.string text) = some text :=
  if_pos listed

theorem listed_of_label {labels : List String} {value : Value} {text : String}
    (read : labelOf? labels value = some text) : text ∈ labels := by
  cases value with
  | string given =>
      obtain ⟨listed, same⟩ := Option.ite_none_right_eq_some.mp read
      exact Option.some.inj same ▸ listed
  | _ => cases read

theorem positive_of_nat {number : Nat} (positive : 0 < number) :
    positiveOf? (.nat number) = some number :=
  if_pos (Int.natCast_pos.mpr positive)

theorem positive_of_read {value : Value} {number : Nat} (read : positiveOf? value = some number) :
    0 < number := by
  unfold positiveOf? at read
  split at read
  next whole _ =>
    obtain ⟨positive, same⟩ := Option.ite_none_right_eq_some.mp read
    exact Option.some.inj same ▸ Int.lt_toNat.mpr positive
  next => cases read

theorem coerce_default (setting : Setting) :
    setting.coerce setting.default = some setting.default := by
  cases setting with
  | switch truth => rfl
  | choice labels label listed => exact congrArg (Option.map Value.string) (label_of_listed listed)
  | threshold number positive => exact congrArg (Option.map Value.nat) (positive_of_nat positive)

theorem coerce_coerced (setting : Setting) {data value : Value}
    (coerced : setting.coerce data = some value) : setting.coerce value = some value := by
  cases setting with
  | switch =>
      obtain ⟨truth, -, rfl⟩ := Option.map_eq_some_iff.mp coerced
      rfl
  | choice labels =>
      obtain ⟨text, read, rfl⟩ := Option.map_eq_some_iff.mp coerced
      exact congrArg (Option.map Value.string) (label_of_listed (listed_of_label read))
  | threshold =>
      obtain ⟨number, read, rfl⟩ := Option.map_eq_some_iff.mp coerced
      exact congrArg (Option.map Value.nat) (positive_of_nat (positive_of_read read))

end Setting

end Settings

section Schemas

/-- The settings of some data and the mappings around them, each with the path that leads there. A
mapping is listed with the keys it may have. -/
structure Schema where
  settings : List (List String × Setting)
  records : List (List String × List String)

namespace Schema

def single (setting : Setting) : Schema := ⟨[([], setting)], []⟩

def switch (default : Bool) : Schema := single (.switch default)

def threshold (default : Nat) (positive : 0 < default) : Schema :=
  single (.threshold default positive)

def choice {α : Type} (all : List α) (label : α → String) (default : α)
    (listed : default ∈ all) : Schema :=
  single (.choice (all.map label) (label default) (List.mem_map_of_mem listed))

theorem mem_severities (severity : Severity) : severity ∈ Severity.all := by
  cases severity <;> decide

def severity (default : Severity) : Schema :=
  choice Severity.all Severity.label default (mem_severities default)

def under {α : Type} (key : String) (places : List (List String × α)) : List (List String × α) :=
  places.map fun place => (key :: place.1, place.2)

def record (fields : List (String × Schema)) : Schema where
  settings := fields.flatMap fun field => under field.1 field.2.settings
  records := ([], fields.map Prod.fst) ::
    fields.flatMap fun field => under field.1 field.2.records

/-- The data has an unknown key, no mapping where one belongs, or a value that its setting does not
accept. -/
inductive Flawed (schema : Schema) (data : Value) : Prop
  | unknownKey {path known : List String} {label : Option Nat} {entries : Entries} {key value : Value}
      (place : (path, known) ∈ schema.records)
      (given : data.descend path = some (.mapping label entries)) (member : (key, value) ∈ entries)
      (unknown : ∀ name ∈ known, key ≠ .string name)
  | notAMapping {path known : List String} {value : Value} (place : (path, known) ∈ schema.records)
      (given : data.descend path = some value)
      (other : ∀ label entries, value ≠ .mapping label entries)
  | refused {path : List String} {setting : Setting} {value : Value}
      (place : (path, setting) ∈ schema.settings) (given : data.descend path = some value)
      (refused : setting.coerce value = none)

theorem flawed_single (setting : Setting) (data : Value) :
    (single setting).Flawed data ↔ setting.coerce data = none := by
  constructor
  · rintro (⟨place, -, -, -⟩ | ⟨place, -, -⟩ | ⟨place, given, refused⟩)
    · exact absurd place List.not_mem_nil
    · exact absurd place List.not_mem_nil
    · obtain ⟨rfl, rfl⟩ := Prod.mk.inj (List.mem_singleton.mp place)
      obtain rfl := Option.some.inj given
      exact refused
  · exact fun refused => .refused (List.mem_singleton.mpr rfl) rfl refused

variable {fields : List (String × Schema)} {label : Option Nat} {entries : Entries}

theorem descend_field {key : String} {path : List String} {value : Value} :
    (Value.mapping label entries).descend (key :: path) = some value ↔
      ∃ inner, Value.lookup key entries = some inner ∧ inner.descend path = some value :=
  Option.bind_eq_some_iff

theorem mem_fields {α : Type} {places : Schema → List (List String × α)} {path : List String}
    {given : α} :
    (path, given) ∈ fields.flatMap (fun field => under field.1 (places field.2)) ↔
      ∃ field ∈ fields, ∃ inner, path = field.1 :: inner ∧ (inner, given) ∈ places field.2 := by
  rw [List.mem_flatMap]
  refine exists_congr fun field => and_congr_right fun _ => ?_
  constructor
  · intro member
    obtain ⟨place, present, same⟩ := List.mem_map.mp member
    obtain ⟨rfl, rfl⟩ := Prod.mk.inj same
    exact ⟨place.1, rfl, present⟩
  · rintro ⟨inner, rfl, present⟩
    exact List.mem_map.mpr ⟨(inner, given), present, rfl⟩

theorem flawed_record_other {data : Value} (other : ∀ label entries, data ≠ .mapping label entries) :
    (record fields).Flawed data :=
  .notAMapping List.mem_cons_self rfl other

theorem flawed_of_field {field : String × Schema} {value : Value} (present : field ∈ fields)
    (found : Value.lookup field.1 entries = some value) (flawed : field.2.Flawed value) :
    (record fields).Flawed (.mapping label entries) := by
  cases flawed with
  | unknownKey place given member unknown =>
      exact .unknownKey (List.mem_cons_of_mem _ (mem_fields.mpr ⟨field, present, _, rfl, place⟩))
        (descend_field.mpr ⟨value, found, given⟩) member unknown
  | notAMapping place given other =>
      exact .notAMapping (List.mem_cons_of_mem _ (mem_fields.mpr ⟨field, present, _, rfl, place⟩))
        (descend_field.mpr ⟨value, found, given⟩) other
  | refused place given refused =>
      exact .refused (mem_fields.mpr ⟨field, present, _, rfl, place⟩)
        (descend_field.mpr ⟨value, found, given⟩) refused

-- A flaw of a mapping is one of its own keys or lies behind one of them.
theorem flawed_record :
    (record fields).Flawed (.mapping label entries) ↔
      (∃ entry ∈ entries, ∀ name ∈ fields.map Prod.fst, entry.1 ≠ .string name) ∨
      ∃ field ∈ fields, ∃ value,
        Value.lookup field.1 entries = some value ∧ field.2.Flawed value := by
  constructor
  · rintro (⟨place, given, member, unknown⟩ | ⟨place, given, other⟩ | ⟨place, given, refused⟩)
    · rcases List.mem_cons.mp place with here | below
      · obtain ⟨rfl, rfl⟩ := Prod.mk.inj here
        obtain ⟨rfl, rfl⟩ := Value.mapping.inj (Option.some.inj given)
        exact Or.inl ⟨_, member, unknown⟩
      · obtain ⟨field, present, inner, rfl, inside⟩ := mem_fields.mp below
        obtain ⟨value, found, given⟩ := descend_field.mp given
        exact Or.inr ⟨field, present, value, found, .unknownKey inside given member unknown⟩
    · rcases List.mem_cons.mp place with here | below
      · obtain ⟨rfl, rfl⟩ := Prod.mk.inj here
        exact absurd (Option.some.inj given).symm (other label entries)
      · obtain ⟨field, present, inner, rfl, inside⟩ := mem_fields.mp below
        obtain ⟨value, found, given⟩ := descend_field.mp given
        exact Or.inr ⟨field, present, value, found, .notAMapping inside given other⟩
    · obtain ⟨field, present, inner, rfl, inside⟩ := mem_fields.mp place
      obtain ⟨value, found, given⟩ := descend_field.mp given
      exact Or.inr ⟨field, present, value, found, .refused inside given refused⟩
  · rintro (⟨entry, member, unknown⟩ | ⟨field, present, value, found, flawed⟩)
    · exact .unknownKey List.mem_cons_self rfl member unknown
    · exact flawed_of_field present found flawed

end Schema

end Schemas

section Validation

variable {α : Type}

/-- Every setting has the coerced value that the data gives for it, or its default if the data gives
none, and no threshold is below one. -/
structure Merged (schema : Schema) (data result : Value) : Prop where
  given : ∀ path setting value, (path, setting) ∈ schema.settings → data.descend path = some value →
    result.descend path = setting.coerce value
  absent : ∀ path setting, (path, setting) ∈ schema.settings → data.descend path = none →
    result.descend path = some setting.default
  positive : ∀ path default positive, (path, .threshold default positive) ∈ schema.settings →
    ∃ number, 1 ≤ number ∧ result.descend path = some (.nat number)

/-- Flawed data is rejected. Any other data gives a result that merges it with the defaults, and that
is read back from the data it is written as. -/
structure Validates (schema : Schema) (check : Value → Checked α) (dump : α → Value) : Prop where
  rejects : ∀ data, schema.Flawed data → ∃ issues, (check data).toExcept = .error issues
  succeeds : ∀ data, ¬ schema.Flawed data → ∃ result, (check data).toExcept = .ok result ∧
    Merged schema data (dump result) ∧ (check (dump result)).toExcept = .ok result

end Validation

end PatternInspector.Config
