import Mathlib.Algebra.GroupWithZero.Nat
import Mathlib.Data.List.Induction
import Mathlib.Data.List.Nodup
import PatternInspector.Finding.Tally

/-!
What a tally holds: every entry once, in the order in which the entries first appear, with the number
of its occurrences. The numbers add up to the length of the list.
-/
namespace PatternInspector

variable {α β : Type} [DecidableEq α] [DecidableEq β] {keys entries : List α} {entry : α}

section Steps

variable (number : α → Nat)

theorem add_count_new (new : entry ∉ keys) :
    addCount entry (keys.map fun key => (key, number key)) =
      (keys.map fun key => (key, number key)) ++ [(entry, 1)] := by
  induction keys with
  | nil => rfl
  | cons key keys ih =>
      obtain ⟨different, later⟩ := not_or.mp (List.mem_cons.not.mp new)
      simp only [List.map_cons, addCount, if_neg (Ne.symm different), ih later, List.cons_append]

-- Keys stand in a tally once, so the first that fits is the only one.
theorem add_count_known (distinct : keys.Nodup) (known : entry ∈ keys) :
    addCount entry (keys.map fun key => (key, number key)) =
      keys.map fun key => (key, number key + if entry = key then 1 else 0) := by
  induction keys with
  | nil => exact absurd known List.not_mem_nil
  | cons key keys ih =>
      obtain ⟨fresh, distinct⟩ := List.nodup_cons.mp distinct
      by_cases same : key = entry
      · subst same
        have others : keys.map (fun other => (other, number other)) =
            keys.map fun other => (other, number other + if key = other then 1 else 0) := by
          apply List.map_congr_left
          intro other member
          have different : key ≠ other := by
            rintro rfl
            exact fresh member
          rw [if_neg different, Nat.add_zero]
        simp only [List.map_cons, addCount, if_true, ← others]
      · have later : entry ∈ keys := (List.mem_cons.mp known).resolve_left (Ne.symm same)
        simp only [List.map_cons, addCount, if_neg same, if_neg (Ne.symm same), ih distinct later,
          Nat.add_zero]

theorem total_add_count (counts : List (α × Nat)) :
    ((addCount entry counts).map Prod.snd).sum = (counts.map Prod.snd).sum + 1 := by
  induction counts with
  | nil => rfl
  | cons first counts ih =>
      obtain ⟨key, count⟩ := first
      unfold addCount
      split
      · simp only [List.map_cons, List.sum_cons]
        omega
      · simp only [List.map_cons, List.sum_cons, ih]
        omega

theorem add_count_map {rename : α → β} (injective : rename.Injective) (counts : List (α × Nat)) :
    addCount (rename entry) (counts.map (Prod.map rename id)) =
      (addCount entry counts).map (Prod.map rename id) := by
  induction counts with
  | nil => rfl
  | cons first counts ih =>
      obtain ⟨key, count⟩ := first
      simp only [List.map_cons, Prod.map_apply, addCount, injective.eq_iff, ih]
      split <;> rfl

end Steps

section Runs

theorem erase_dups_concat (entries : List α) (entry : α) :
    (entries ++ [entry]).eraseDups =
      if entry ∈ entries then entries.eraseDups else entries.eraseDups ++ [entry] := by
  rw [List.eraseDups_append]
  by_cases known : entry ∈ entries
  · simp [List.removeAll, known]
  · simp [List.removeAll, known, List.eraseDups_cons]

theorem nodup_erase_dups (entries : List α) : entries.eraseDups.Nodup := by
  induction entries using List.reverseRecOn with
  | nil => exact List.nodup_nil
  | append_singleton entries entry ih =>
      rw [erase_dups_concat]
      split
      · exact ih
      · next new =>
          rw [← List.concat_eq_append]
          apply List.Nodup.concat _ ih
          exact fun given => new (List.mem_eraseDups.mp given)

theorem tally_concat (entries : List α) (entry : α) :
    tally (entries ++ [entry]) = addCount entry (tally entries) := by
  rw [tally, List.foldl_append]
  rfl

/-- A tally lists the entries in order of first appearance, each with its number of occurrences. -/
theorem tally_counts (entries : List α) :
    tally entries = entries.eraseDups.map fun entry => (entry, entries.count entry) := by
  induction entries using List.reverseRecOn with
  | nil => rfl
  | append_singleton entries entry ih =>
      have number : ∀ other, (entries ++ [entry]).count other =
          entries.count other + if entry = other then 1 else 0 := by
        intro other
        simp [List.count_append, List.count_singleton]
      have listed : entry ∈ entries.eraseDups ↔ entry ∈ entries := List.mem_eraseDups
      simp only [tally_concat, ih, erase_dups_concat, number]
      by_cases known : entry ∈ entries
      · rw [add_count_known _ (nodup_erase_dups entries) (listed.mpr known), if_pos known]
      · rw [add_count_new _ (listed.not.mpr known), if_neg known, List.map_append]
        congr 1
        · apply List.map_congr_left
          intro other given
          have different : entry ≠ other := by
            rintro rfl
            exact known (listed.mp given)
          rw [if_neg different, Nat.add_zero]
        · simp [List.count_eq_zero_of_not_mem known]

example : tally ["b", "a", "b", "c", "a", "b"] = [("b", 3), ("a", 2), ("c", 1)] := by decide

theorem total_tally (entries : List α) : ((tally entries).map Prod.snd).sum = entries.length := by
  induction entries using List.reverseRecOn with
  | nil => rfl
  | append_singleton entries entry ih =>
      rw [tally_concat, total_add_count, ih, List.length_append, List.length_singleton]

theorem tally_map {rename : α → β} (injective : rename.Injective) (entries : List α) :
    tally (entries.map rename) = (tally entries).map (Prod.map rename id) := by
  induction entries using List.reverseRecOn with
  | nil => rfl
  | append_singleton entries entry ih =>
      rw [List.map_append, List.map_singleton, tally_concat, tally_concat, ih,
        add_count_map injective]

end Runs

end PatternInspector
