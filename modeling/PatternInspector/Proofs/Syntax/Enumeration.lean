import Mathlib.Data.List.Basic
import Mathlib.Data.List.Forall2
import Mathlib.Data.Prod.Lex

/-!
Lists of results that belong to keys: all keys for which something holds, each once and in their order,
with one result for each. A table is the case of a partial function. Tables are read one by one, joined
one behind the other, and nested in one another.
-/
namespace PatternInspector.Syntax

section Enumerations

variable {α κ ι β γ : Type}

/-- The results belong, one by one and in order, to the keys for which something holds. -/
def Enumerates (before : κ → κ → Prop) (holds : κ → Prop) (belongs : κ → β → Prop)
    (results : List β) : Prop :=
  ∃ keys : List κ, keys.Pairwise before ∧ (∀ key, key ∈ keys ↔ holds key) ∧
    List.Forall₂ belongs keys results

/-- A list of all values of a partial function, in the order of its keys. -/
def Tabulates (before : κ → κ → Prop) (lookup : κ → Option β) (results : List β) : Prop :=
  Enumerates before (fun key => (lookup key).isSome = true)
    (fun key result => lookup key = some result) results

variable {before : κ → κ → Prop} {within : ι → ι → Prop} {lookup : κ → Option β}
  {results : List β}

theorem enumerates_imp {holds holds' : κ → Prop} {belongs belongs' : κ → β → Prop}
    (enumeration : Enumerates before holds belongs results)
    (same : ∀ key, holds key ↔ holds' key)
    (weaker : ∀ key result, belongs key result → belongs' key result) :
    Enumerates before holds' belongs' results := by
  obtain ⟨keys, ordered, complete, tied⟩ := enumeration
  exact ⟨keys, ordered, fun key => (complete key).trans (same key), tied.imp weaker⟩

theorem enumerates_mem {holds : κ → Prop} {belongs : κ → β → Prop}
    (enumeration : Enumerates before holds belongs results) {result : β} (member : result ∈ results) :
    ∃ key, holds key ∧ belongs key result := by
  obtain ⟨keys, -, complete, tied⟩ := enumeration
  obtain ⟨index, inside, rfl⟩ := List.getElem_of_mem member
  have known : index < keys.length := tied.length_eq ▸ inside
  exact ⟨keys[index], (complete _).mp (List.getElem_mem known), tied.get known inside⟩

theorem enumerates_nil {holds : κ → Prop} {belongs : κ → β → Prop} (nowhere : ∀ key, ¬ holds key) :
    Enumerates before holds belongs [] :=
  ⟨[], List.Pairwise.nil, fun key => by simp [nowhere key], List.Forall₂.nil⟩

theorem enumerates_if {condition : Prop} [Decidable condition] {belongs : κ → β → Prop} {key : κ}
    {result : β} (belonging : belongs key result) :
    Enumerates before (fun other => other = key ∧ condition) belongs
      (if condition then [result] else []) := by
  by_cases holds : condition
  · rw [if_pos holds]
    exact ⟨[key], List.pairwise_singleton _ _, fun other => by simp [holds],
      List.Forall₂.cons belonging List.Forall₂.nil⟩
  · rw [if_neg holds]
    exact enumerates_nil fun other => by simp [holds]

theorem enumerates_append {first second : κ → Prop} {belongs : κ → β → Prop} {later : List β}
    (one : Enumerates before first belongs results) (two : Enumerates before second belongs later)
    (ordered : ∀ key other, first key → second other → before key other) :
    Enumerates before (fun key => first key ∨ second key) belongs (results ++ later) := by
  obtain ⟨keys, sorted, complete, tied⟩ := one
  obtain ⟨others, sortedToo, completeToo, tiedToo⟩ := two
  refine ⟨keys ++ others, List.pairwise_append.mpr ⟨sorted, sortedToo, ?_⟩, ?_,
    List.rel_append tied tiedToo⟩
  · intro key member other present
    exact ordered key other ((complete key).mp member) ((completeToo other).mp present)
  · intro key
    rw [List.mem_append, complete, completeToo]

theorem tabulates_list (items : List β) :
    Tabulates (· < ·) (fun index : Nat => items[index]?) items := by
  refine ⟨List.range items.length, List.pairwise_lt_range, ?_, ?_⟩
  · intro index
    simp
  · rw [List.forall₂_iff_get]
    simp

theorem tabulates_filter_map {read : β → Option γ} (table : Tabulates before lookup results) :
    Tabulates before (fun key => (lookup key).bind read) (results.filterMap read) := by
  obtain ⟨keys, ordered, complete, tied⟩ := table
  refine ⟨keys.filter fun key => ((lookup key).bind read).isSome, ordered.filter _, ?_, ?_⟩
  · intro key
    rw [List.mem_filter, complete]
    constructor
    · exact And.right
    · intro known
      obtain ⟨value, found⟩ := Option.isSome_iff_exists.mp known
      obtain ⟨result, here, -⟩ := Option.bind_eq_some_iff.mp found
      exact ⟨Option.isSome_of_eq_some here, known⟩
  · clear ordered complete
    induction tied with
    | nil => exact List.Forall₂.nil
    | @cons key result keys results here _ ih =>
        cases given : read result with
        | none => simpa [here, given] using ih
        | some value => simpa [here, given] using ih

theorem tabulates_map {read : β → γ} (table : Tabulates before lookup results) :
    Tabulates before (fun key => (lookup key).map read) (results.map read) := by
  have values : Tabulates before (fun key => (lookup key).bind (some ∘ read)) _ :=
    tabulates_filter_map table
  simpa only [List.filterMap_eq_map, ← Option.map_eq_bind] using values

theorem tabulates_filter {chosen : β → Bool} (table : Tabulates before lookup results) :
    Tabulates before (fun key => (lookup key).filter chosen) (results.filter chosen) := by
  have values : Tabulates before (fun key => (lookup key).bind (Option.guard chosen)) _ :=
    tabulates_filter_map table
  simpa only [List.filterMap_eq_filter, Option.bind_guard] using values

-- The keys can be renamed as long as their order is kept.
theorem tabulates_renamed [LT ι] (rename : κ → ι)
    (ordered : ∀ first second, before first second → rename first < rename second)
    (table : Tabulates before lookup results) :
    Enumerates (· < ·) (fun name => ∃ key result, name = rename key ∧ lookup key = some result)
      (fun name result => ∃ key, name = rename key ∧ lookup key = some result) results := by
  obtain ⟨keys, sorted, complete, tied⟩ := table
  refine ⟨keys.map rename, sorted.map rename ordered, ?_, ?_⟩
  · intro name
    rw [List.mem_map]
    constructor
    · rintro ⟨key, member, rfl⟩
      obtain ⟨result, found⟩ := Option.isSome_iff_exists.mp ((complete key).mp member)
      exact ⟨key, result, rfl, found⟩
    · rintro ⟨key, result, rfl, found⟩
      exact ⟨key, (complete key).mpr (Option.isSome_of_eq_some found), rfl⟩
  · rw [List.forall₂_map_left_iff]
    exact tied.imp fun key result found => ⟨key, rfl, found⟩

theorem enumerates_beside (key : κ) {holds : ι → Prop} {belongs : ι → γ → Prop} {entries : List γ}
    (inner : Enumerates within holds belongs entries) :
    Enumerates (Prod.Lex before within) (fun pair => pair.1 = key ∧ holds pair.2)
      (fun pair entry => pair.1 = key ∧ belongs pair.2 entry) entries := by
  obtain ⟨slots, sorted, complete, tied⟩ := inner
  refine ⟨slots.map (key, ·), sorted.map _ fun _ _ sooner => Prod.Lex.right key sooner, ?_, ?_⟩
  · rintro ⟨other, slot⟩
    rw [List.mem_map]
    constructor
    · rintro ⟨slot, member, same⟩
      cases same
      exact ⟨rfl, (complete slot).mp member⟩
    · rintro ⟨rfl, holding⟩
      exact ⟨slot, (complete slot).mpr holding, rfl⟩
  · rw [List.forall₂_map_left_iff]
    exact tied.imp fun slot entry belonging => ⟨rfl, belonging⟩

section Nesting

variable {holds : β → ι → Prop} {belongs : β → ι → γ → Prop} {entries : β → List γ}

-- The induction is on the keys, so it speaks of those that are left.
theorem enumerates_nested {keys : List κ} (ordered : keys.Pairwise before)
    (tied : List.Forall₂ (fun key result => lookup key = some result) keys results)
    (inner : ∀ result ∈ results, Enumerates within (holds result) (belongs result) (entries result)) :
    Enumerates (Prod.Lex before within)
      (fun pair => pair.1 ∈ keys ∧ ∃ result, lookup pair.1 = some result ∧ holds result pair.2)
      (fun pair entry => ∃ result, lookup pair.1 = some result ∧ belongs result pair.2 entry)
      (results.flatMap entries) := by
  induction tied with
  | nil => exact enumerates_nil (by simp)
  | @cons key result keys results here _ ih =>
      obtain ⟨first, ordered⟩ := List.pairwise_cons.mp ordered
      have own : Enumerates (Prod.Lex before within) (fun pair => pair.1 = key ∧ holds result pair.2)
          (fun pair entry => ∃ result, lookup pair.1 = some result ∧ belongs result pair.2 entry)
          (entries result) := by
        apply enumerates_imp (enumerates_beside key (inner result List.mem_cons_self)) fun _ => Iff.rfl
        rintro ⟨_, slot⟩ entry ⟨rfl, belonging⟩
        exact ⟨result, here, belonging⟩
      have others := ih ordered fun other member => inner other (List.mem_cons_of_mem _ member)
      refine enumerates_imp (enumerates_append own others ?_) ?_ fun _ _ => id
      · rintro pair other ⟨rfl, -⟩ ⟨known, -⟩
        exact Prod.Lex.left _ _ (first other.1 known)
      · rintro ⟨other, slot⟩
        rw [List.mem_cons, or_and_right]
        apply or_congr_left
        apply and_congr_right
        rintro rfl
        simp [here]

/-- Every result brings an enumeration of its own, and these follow one another. -/
theorem enumerates_flat_map (table : Tabulates before lookup results)
    (inner : ∀ result ∈ results, Enumerates within (holds result) (belongs result) (entries result)) :
    Enumerates (Prod.Lex before within)
      (fun key => ∃ result, lookup key.1 = some result ∧ holds result key.2)
      (fun key entry => ∃ result, lookup key.1 = some result ∧ belongs result key.2 entry)
      (results.flatMap entries) := by
  obtain ⟨keys, ordered, complete, tied⟩ := table
  apply enumerates_imp (enumerates_nested ordered tied inner) _ fun _ _ => id
  intro pair
  rw [complete, and_iff_right_iff_imp]
  rintro ⟨result, found, -⟩
  exact Option.isSome_of_eq_some found

end Nesting

theorem tabulates_flat_map {inner : β → ι → Option γ} {entries : β → List γ}
    (table : Tabulates before lookup results)
    (each : ∀ result ∈ results, Tabulates within (inner result) (entries result)) :
    Tabulates (Prod.Lex before within) (fun key => (lookup key.1).bind fun result => inner result key.2)
      (results.flatMap entries) := by
  apply enumerates_imp (enumerates_flat_map table each)
  · intro key
    cases found : lookup key.1 <;> simp [found]
  · intro key entry
    cases found : lookup key.1 <;> simp [found]

/-- A table as a list of its keys, each with its value. -/
theorem tabulates_entries (table : Tabulates before lookup results) :
    ∃ entries : List (κ × β), entries.map Prod.snd = results ∧
      entries.Pairwise (fun first second => before first.1 second.1) ∧
      ∀ key result, (key, result) ∈ entries ↔ lookup key = some result := by
  obtain ⟨keys, ordered, complete, tied⟩ := table
  have keysOf : (keys.zip results).map Prod.fst = keys := List.map_fst_zip tied.length_eq.le
  refine ⟨keys.zip results, List.map_snd_zip tied.length_eq.ge, ?_, ?_⟩
  · rwa [← List.pairwise_map, keysOf]
  · intro key result
    constructor
    · exact fun member => List.forall₂_zip tied member
    · intro found
      have known : key ∈ (keys.zip results).map Prod.fst :=
        keysOf.symm ▸ (complete key).mpr (Option.isSome_of_eq_some found)
      obtain ⟨⟨_, other⟩, member, rfl⟩ := List.mem_map.mp known
      obtain rfl : other = result :=
        Option.some.inj ((List.forall₂_zip tied member).symm.trans found)
      exact member

-- What belongs to one slot of every key is enumerated by the keys.
theorem enumerates_slot [DecidableEq ι] {holds : κ × ι → Prop} {belongs : κ × ι → β → Prop}
    (enumeration : Enumerates (Prod.Lex before within) holds belongs results) (slot : ι)
    (apart : ¬ within slot slot) {mine : β → Bool}
    (recognised : ∀ key result, belongs key result → (mine result = true ↔ key.2 = slot)) :
    Enumerates before (fun key => holds (key, slot)) (fun key result => belongs (key, slot) result)
      (results.filter mine) := by
  obtain ⟨pairs, sorted, complete, tied⟩ := enumeration
  refine ⟨(pairs.filter fun pair => pair.2 = slot).map Prod.fst, ?_, ?_, ?_⟩
  · rw [List.pairwise_map]
    apply (sorted.filter _).imp_of_mem
    intro first second member other sooner
    have own : first.2 = slot := by simpa using (List.mem_filter.mp member).2
    have same : second.2 = slot := by simpa using (List.mem_filter.mp other).2
    rcases Prod.lex_def.mp sooner with earlier | ⟨-, inside⟩
    · exact earlier
    · rw [own, same] at inside
      exact absurd inside apart
  · intro key
    refine Iff.trans ?_ (complete (key, slot))
    rw [List.mem_map]
    constructor
    · rintro ⟨⟨key, other⟩, member, rfl⟩
      obtain ⟨present, same⟩ := List.mem_filter.mp member
      obtain rfl : other = slot := by simpa using same
      exact present
    · intro member
      exact ⟨(key, slot), List.mem_filter.mpr ⟨member, by simp⟩, rfl⟩
  · clear sorted complete
    induction tied with
    | nil => exact List.Forall₂.nil
    | @cons pair result pairs results here _ ih =>
        obtain ⟨key, other⟩ := pair
        by_cases own : other = slot
        · subst own
          have kept : mine result = true := (recognised _ _ here).mpr rfl
          rw [List.filter_cons_of_pos (by simp), List.filter_cons_of_pos kept, List.map_cons]
          exact List.Forall₂.cons here ih
        · have dropped : ¬ mine result = true := fun kept => own ((recognised _ _ here).mp kept)
          rw [List.filter_cons_of_neg (by simpa using own), List.filter_cons_of_neg dropped]
          exact ih

theorem flat_map_filter (keeps : α → Bool) (results : α → List β) (items : List α) :
    (items.filter keeps).flatMap results =
      items.flatMap fun item => if keeps item = true then results item else [] := by
  induction items with
  | nil => rfl
  | cons item items ih =>
      rw [List.flatMap_cons, ← ih, List.filter_cons]
      split
      next => rw [List.flatMap_cons]
      next => rw [List.nil_append]

end Enumerations

end PatternInspector.Syntax
