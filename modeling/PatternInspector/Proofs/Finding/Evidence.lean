import PatternInspector.Finding.Severity

/-!
How much evidence a confidence asks for. Every finding has some, and one that is called certain has
at least two pieces. Findings are listed under conditions; what is true of each holds with and without
them.
-/
namespace PatternInspector

variable {confidence : Confidence} {evidence : List String}

def Confidence.demand : Confidence → Nat
  | .high => 2
  | .medium | .low => 1

def Backed (confidence : Confidence) (evidence : List String) : Prop :=
  confidence.demand ≤ evidence.length

theorem backed_iff :
    Backed confidence evidence ↔ evidence ≠ [] ∧ (confidence = .high → 2 ≤ evidence.length) := by
  rw [← List.length_pos_iff]
  cases confidence with
  | low | medium => simp [Backed, Confidence.demand, Nat.succ_le_iff]
  | high =>
      simp only [Backed, Confidence.demand, forall_const]
      omega

-- No confidence needs more than two pieces.
theorem backed_two (two : 2 ≤ evidence.length) : Backed confidence evidence := by
  cases confidence with
  | low | medium => exact Nat.le_of_succ_le two
  | high => exact two

theorem backed_one (uncertain : confidence ≠ .high) (one : 1 ≤ evidence.length) :
    Backed confidence evidence := by
  cases confidence with
  | low | medium => exact one
  | high => exact absurd rfl uncertain

theorem backed_high_if {condition : Bool} (one : 1 ≤ evidence.length)
    (two : condition = true → 2 ≤ evidence.length) : Backed (.highIf condition) evidence := by
  cases condition with
  | false => exact one
  | true => exact two rfl

@[simp] theorem length_note_if (condition : Bool) (note : String) :
    (noteIf condition note).length = condition.toNat := by
  cases condition <;> rfl

section Conditions

theorem forall_mem_if {α : Type} {accepts : α → Prop} {condition : Prop} [Decidable condition]
    {items : List α} (each : ∀ item ∈ items, accepts item) :
    ∀ item ∈ (if condition then items else []), accepts item := by
  split
  next => exact each
  next => simp

theorem forall_mem_unless {α : Type} {accepts : α → Prop} {condition : Prop} [Decidable condition]
    {items : List α} (each : ∀ item ∈ items, accepts item) :
    ∀ item ∈ (if condition then [] else items), accepts item := by
  split
  next => simp
  next => exact each

end Conditions

section Signs

variable {first second : Bool}

theorem sign_seen (seen : first = true) : first.toNat = 1 := by
  rw [seen]
  rfl

theorem one_sign (either : (first || second) = true) : 1 ≤ first.toNat + second.toNat := by
  revert first second
  decide

theorem joint_sign_le (first second : Bool) :
    (first && second).toNat ≤ first.toNat ∧ (first && second).toNat ≤ second.toNat := by
  revert first second
  decide

end Signs

end PatternInspector
