import Mathlib.Logic.Function.Basic

/-!
Findings behind switches. A check that stands behind some switches reports only while all of them are
on, and a switch owns what is reported behind it. Then turning a switch off takes away the findings it
owns and leaves all others as they are, in their order.
-/
namespace PatternInspector

section Gates

variable {σ α : Type} {gates : List σ}

/-- The findings behind some switches: all of them while every switch is on, and none otherwise. -/
def shown (gates : List σ) (isOn : σ → Bool) (findings : List α) : List α :=
  if gates.all isOn then findings else []

theorem shown_append (isOn : σ → Bool) (first second : List α) :
    shown gates isOn (first ++ second) = shown gates isOn first ++ shown gates isOn second := by
  unfold shown
  split <;> rfl

theorem shown_filter (isOn : σ → Bool) (findings : List α) (accepts : α → Bool) :
    (shown gates isOn findings).filter accepts = shown gates isOn (findings.filter accepts) := by
  unfold shown
  split <;> rfl

theorem shown_nil (isOn : σ → Bool) : shown gates isOn ([] : List α) = [] := ite_self []

theorem shown_if (gate : σ) (isOn : σ → Bool) (findings : List α) :
    shown gates isOn (if isOn gate then findings else []) = shown (gate :: gates) isOn findings := by
  unfold shown
  rw [List.all_cons]
  cases isOn gate <;> simp

variable [DecidableEq σ] {isOn : σ → Bool} {switch : σ}

theorem shown_closed (gate : switch ∈ gates) (findings : List α) :
    shown gates (Function.update isOn switch false) findings = [] := by
  apply if_neg
  intro opened
  simpa using List.all_eq_true.mp opened switch gate

theorem shown_apart (apart : switch ∉ gates) (on : Bool) (findings : List α) :
    shown gates (Function.update isOn switch on) findings = shown gates isOn findings := by
  have same : gates.all (Function.update isOn switch on) = gates.all isOn := by
    rw [Bool.eq_iff_iff, List.all_eq_true, List.all_eq_true]
    apply forall₂_congr
    intro gate member
    have other : gate ≠ switch := by
      rintro rfl
      exact apart member
    rw [Function.update_of_ne other]
  rw [shown, shown, same]

end Gates

section Panels

/-- The switches among some rules, the kinds of findings there are, and which switch owns which. -/
structure Panel (ρ σ κ : Type) [DecidableEq σ] where
  isOn : ρ → σ → Bool
  turn : ρ → σ → Bool → ρ
  kinds : List κ
  owns : σ → κ → Bool
  turned : ∀ rules switch on, isOn (turn rules switch on) = Function.update (isOn rules) switch on

variable {ρ σ κ α β : Type} [DecidableEq σ] {panel : Panel ρ σ κ} {kind : α → κ} {gates : List σ}

/-- Behind these gates the findings follow the switches: all are of known kinds, and turning a switch
off leaves the findings of the kinds that it does not own. -/
structure Gated (panel : Panel ρ σ κ) (kind : α → κ) (gates : List σ) (findings : ρ → List α) :
    Prop where
  known : ∀ rules, ∀ finding ∈ findings rules, kind finding ∈ panel.kinds
  follows : ∀ rules switch,
    let off := panel.turn rules switch false
    let on := panel.turn rules switch true
    shown gates (panel.isOn off) (findings off) =
      (shown gates (panel.isOn on) (findings on)).filter fun finding =>
        !panel.owns switch (kind finding)

/-- The kinds that a check behind these gates may report: each is owned by the gates and by no other
switch. -/
def Fits (panel : Panel ρ σ κ) (gates : List σ) (kinds : List κ) : Prop :=
  ∀ k ∈ kinds, k ∈ panel.kinds ∧ ∀ switch, panel.owns switch k = decide (switch ∈ gates)

-- The check itself knows no switch; they only decide whether it is made.
theorem gated_steady (kinds : List κ) {check : ρ → List α}
    (same : ∀ rules switch on, check (panel.turn rules switch on) = check rules)
    (filed : ∀ rules, ∀ finding ∈ check rules, kind finding ∈ kinds)
    (fits : Fits panel gates kinds) : Gated panel kind gates check := by
  constructor
  · intro rules finding member
    exact (fits _ (filed rules finding member)).1
  · intro rules switch
    have owned : ∀ finding ∈ check rules,
        panel.owns switch (kind finding) = decide (switch ∈ gates) :=
      fun finding member => (fits _ (filed rules finding member)).2 switch
    simp only [same, panel.turned, shown_filter]
    by_cases gate : switch ∈ gates
    · have none : (check rules).filter (fun finding => !panel.owns switch (kind finding)) = [] := by
        apply List.filter_eq_nil_iff.mpr
        intro finding member
        simp [owned finding member, gate]
      rw [none, shown_closed gate, shown_nil]
    · have all : (check rules).filter (fun finding => !panel.owns switch (kind finding)) =
          check rules := by
        apply List.filter_eq_self.mpr
        intro finding member
        simp [owned finding member, gate]
      rw [all, shown_apart gate, shown_apart gate]

theorem gated_single (own : κ) {condition : ρ → Prop} [DecidablePred condition] {finding : ρ → α}
    (same : ∀ rules switch on,
      (condition (panel.turn rules switch on) ↔ condition rules) ∧
        finding (panel.turn rules switch on) = finding rules)
    (filed : ∀ rules, kind (finding rules) = own) (fits : Fits panel gates [own]) :
    Gated panel kind gates fun rules => if condition rules then [finding rules] else [] := by
  apply gated_steady [own]
  · intro rules switch on
    obtain ⟨condition, finding⟩ := same rules switch on
    simp only [condition, finding]
  · intro rules reported member
    rw [List.mem_singleton.mp (List.mem_ite_nil_right.mp member).2, filed rules]
    exact List.mem_cons_self
  · exact fits

theorem gated_nil : Gated panel kind gates fun _ => [] := by
  constructor
  · intro rules finding member
    exact absurd member List.not_mem_nil
  · intro rules switch
    simp only [shown_nil, List.filter_nil]

theorem gated_append {first second : ρ → List α} (before : Gated panel kind gates first)
    (after : Gated panel kind gates second) :
    Gated panel kind gates fun rules => first rules ++ second rules := by
  constructor
  · intro rules
    exact List.forall_mem_append.mpr ⟨before.known rules, after.known rules⟩
  · intro rules switch
    simp only [shown_append, List.filter_append]
    exact congrArg₂ _ (before.follows rules switch) (after.follows rules switch)

theorem gated_flat_map {findings : β → ρ → List α} (items : List β)
    (each : ∀ item, Gated panel kind gates (findings item)) :
    Gated panel kind gates fun rules => items.flatMap fun item => findings item rules := by
  induction items with
  | nil => exact gated_nil
  | cons item items ih => exact gated_append (each item) ih

theorem gated_map_filter {accepts : ρ → β → Bool} {report : ρ → β → α} (items : List β)
    (each : ∀ item, Gated panel kind gates fun rules =>
      if accepts rules item then [report rules item] else []) :
    Gated panel kind gates fun rules => (items.filter (accepts rules)).map (report rules) := by
  have itemwise : ∀ rules, (items.filter (accepts rules)).map (report rules) =
      items.flatMap fun item => if accepts rules item then [report rules item] else [] := by
    intro rules
    induction items with
    | nil => rfl
    | cons item items ih =>
        rw [List.filter_cons, List.flatMap_cons, ← ih]
        split <;> rfl
  simp only [itemwise]
  exact gated_flat_map items each

theorem gated_if (gate : σ) {findings : ρ → List α}
    (behind : Gated panel kind (gate :: gates) findings) :
    Gated panel kind gates fun rules => if panel.isOn rules gate then findings rules else [] := by
  constructor
  · intro rules finding member
    exact behind.known rules finding (List.mem_ite_nil_right.mp member).2
  · intro rules switch
    simp only [shown_if]
    exact behind.follows rules switch

theorem gated_if_and (gate : σ) {condition : ρ → Bool} {findings : ρ → List α}
    (behind : Gated panel kind (gate :: gates) fun rules =>
      if condition rules then findings rules else []) :
    Gated panel kind gates fun rules =>
      if panel.isOn rules gate && condition rules then findings rules else [] := by
  simp only [Bool.and_eq_true, ite_and]
  exact gated_if gate behind

end Panels

end PatternInspector
