import PatternInspector.Files.Read

/-!
What reading a file can come to. A path that a file can have leads to a text, to something that
cannot be opened, or to bytes that are no text. Only two things are refused before the files are
looked at: a surrogate that cannot be written in bytes, and a null character.
-/
namespace PatternInspector.Files

section Texts

variable {tree : Tree} {path : FilePath} {text : Text}

/-- The path leads to a file whose bytes decode to the text, line ends unified. -/
def Tree.Holds (tree : Tree) (path : FilePath) (text : Text) : Prop :=
  ∃ bytes raw, tree.resolve path = .ok (.file bytes) ∧ Utf8.decode bytes = .ok raw ∧
    text = unifyNewlines raw

structure IsUsable (path : FilePath) : Prop where
  encodable : ∀ point ∈ path, point.isEncodable = true
  noNull : CodePoint.char '\x00' ∉ path

theorem path_fault_none_iff : pathFault? path = none ↔ IsUsable path := by
  rw [pathFault?]
  split
  next lost =>
    have unusable : ¬ IsUsable path := fun usable => by
      simp [List.all_eq_true.mpr usable.encodable] at lost
    exact iff_of_false (by simp) unusable
  next encodable =>
    split
    next null =>
      exact iff_of_false (by simp) fun usable => usable.noNull (List.contains_iff_mem.mp null)
    next absent =>
      refine iff_of_true rfl ⟨List.all_eq_true.mp (by simpa using encodable), fun member => ?_⟩
      exact absent (List.contains_iff_mem.mpr member)

theorem read_unusable (unusable : ¬ IsUsable path) :
    ∃ fault, tree.readText path = .error (.path fault) := by
  rw [← path_fault_none_iff] at unusable
  obtain ⟨fault, found⟩ := Option.ne_none_iff_exists'.mp unusable
  exact ⟨fault, by rw [Tree.readText, found]⟩

/-- Reading by what the path leads to. -/
theorem read_usable (usable : IsUsable path) : tree.readText path =
    match tree.resolve path with
    | .error fault => .error (.access fault)
    | .ok .directory => .error (.access .isADirectory)
    | .ok .locked => .error (.access .permissionDenied)
    | .ok (.file bytes) =>
        match Utf8.decode bytes with
        | .error fault => .error (.decoding fault)
        | .ok raw => .ok (unifyNewlines raw) := by
  rw [Tree.readText, path_fault_none_iff.mpr usable, Tree.bytes]
  cases tree.resolve path with
  | error fault => rfl
  | ok content => cases content <;> rfl

theorem read_holds (usable : IsUsable path) (holds : tree.Holds path text) :
    tree.readText path = .ok text := by
  obtain ⟨bytes, raw, found, decoded, rfl⟩ := holds
  rw [read_usable usable, found]
  dsimp only
  rw [decoded]

theorem read_refused (usable : IsUsable path) (none : ∀ text, ¬ tree.Holds path text) :
    (∃ fault, tree.readText path = .error (.access fault)) ∨
      ∃ fault, tree.readText path = .error (.decoding fault) := by
  rw [read_usable usable]
  cases found : tree.resolve path with
  | error fault => exact .inl ⟨_, rfl⟩
  | ok content =>
      cases content with
      | directory => exact .inl ⟨_, rfl⟩
      | locked => exact .inl ⟨_, rfl⟩
      | file bytes =>
          cases decoded : Utf8.decode bytes with
          | error fault => exact .inr ⟨fault, by simp [decoded]⟩
          | ok raw => exact absurd ⟨bytes, raw, found, decoded, rfl⟩ (none (unifyNewlines raw))

-- The empty path is the directory itself, so a file that was read has a name.
theorem holds_named (holds : tree.Holds path text) : path ≠ [] := by
  rintro rfl
  obtain ⟨bytes, raw, found, -⟩ := holds
  have here : tree.resolve [] = .ok .directory := rfl
  rw [here] at found
  cases found

end Texts

end PatternInspector.Files
