import Mathlib.Data.List.Forall2
import Mathlib.Data.List.Induction
import Mathlib.Data.List.Sort
import PatternInspector.TypeScript.SmellCheck

/-!
Lines that occur again and again. The reported groups share out the lines that are repeated: every text
with three copies has one group, the group has the numbers of all its copies, and no number is in two
groups. Groups follow one another as their first lines do.

Copies are gathered line by line. One line either starts a group at the end or adds its number to the
group of its text, and the order of the groups' first numbers survives both.
-/
namespace PatternInspector.TypeScript

section Meaning

/-- Line `number` of the code reads `line` between its outer blanks. Lines are counted from one. -/
def LineReads (code : Text) (number : Nat) (line : Text) : Prop :=
  ∃ index written, number = index + 1 ∧ (code.splitOn '\n')[index]? = some written ∧
    Text.strip written = line

def Eligible (line : Text) : Prop :=
  20 < line.length ∧ ¬ ['/', '/'] <+: line ∧ ¬ ['/', '*'] <+: line

def CopyAt (code line : Text) (number : Nat) : Prop := Eligible line ∧ LineReads code number line

/-- The numbers of all copies of a line, from the first to the last. -/
structure ListsCopies (code line : Text) (numbers : List Nat) : Prop where
  all : ∀ number, number ∈ numbers ↔ CopyAt code line number
  ascending : numbers.Pairwise (· < ·)

def StartsBefore (one other : List Nat) : Prop :=
  ∃ first later, one.head? = some first ∧ other.head? = some later ∧ first < later

/-- Every line with at least three copies has one group, which lists them. -/
structure GroupsRepeats (code : Text) (groups : List Occurrence) : Prop where
  lines : ∀ line, line ∈ groups.map (·.line) ↔
    ∃ numbers, ListsCopies code line numbers ∧ 3 ≤ numbers.length
  once : (groups.map (·.line)).Nodup
  copies : ∀ group ∈ groups, ListsCopies code group.line group.numbers
  order : (groups.map (·.numbers)).Pairwise StartsBefore
  apart : (groups.map (·.numbers)).Pairwise List.Disjoint

def lineNote (number : Nat) : String := "line " ++ toString number

/-- The violation tells of the group: how many lines it has and which, the first of them as its place. -/
structure ReportsGroup (group : Occurrence) (violation : Violation) : Prop where
  rule : violation.rule = "code-smell-duplication"
  message : violation.message = "重複したコードが" ++ toString group.numbers.length ++
    "箇所にあります（行: " ++ joinWith ", " (group.numbers.map toString) ++ "）"
  line : violation.line = group.numbers.head?
  evidence : violation.evidence = group.numbers.map lineNote

end Meaning

section Steps

def numbersOf (entries : List (Text × Nat)) (line : Text) : List Nat :=
  (entries.filter fun entry => entry.1 = line).map (·.2)

theorem mem_numbers_of {entries : List (Text × Nat)} {line : Text} {number : Nat} :
    number ∈ numbersOf entries line ↔ (line, number) ∈ entries := by
  simp [numbersOf]

theorem numbers_of_concat (entries : List (Text × Nat)) (line other : Text) (number : Nat) :
    numbersOf (entries ++ [(line, number)]) other =
      numbersOf entries other ++ if line = other then [number] else [] := by
  by_cases same : line = other
  · simp [numbersOf, same]
  · simp [numbersOf, same]

theorem add_occurrence_cases (line : Text) (number : Nat) (known : List Occurrence) :
    (line ∉ known.map (·.line) ∧ addOccurrence line number known = known ++ [⟨line, [number]⟩]) ∨
    ∃ front numbers back, known = front ++ ⟨line, numbers⟩ :: back ∧
      addOccurrence line number known = front ++ ⟨line, numbers ++ [number]⟩ :: back := by
  induction known with
  | nil => exact Or.inl ⟨List.not_mem_nil, rfl⟩
  | cons first rest ih =>
      by_cases same : first.line = line
      · apply Or.inr
        refine ⟨[], first.numbers, rest, ?_, ?_⟩
        · rw [← same]
          rfl
        · rw [addOccurrence, if_pos same]
          rfl
      · rw [addOccurrence, if_neg same]
        rcases ih with ⟨new, added⟩ | ⟨front, numbers, back, rfl, added⟩
        · apply Or.inl
          constructor
          · rw [List.map_cons, List.mem_cons, not_or]
            exact ⟨Ne.symm same, new⟩
          · rw [added, List.cons_append]
        · exact Or.inr ⟨first :: front, numbers, back, rfl, by rw [added, List.cons_append]⟩

structure Gathers (entries : List (Text × Nat)) (known : List Occurrence) : Prop where
  lines : ∀ line, line ∈ known.map (·.line) ↔ line ∈ entries.map (·.1)
  numbers : ∀ group ∈ known, group.numbers = numbersOf entries group.line
  order : (known.map (·.numbers)).Pairwise StartsBefore

theorem starts_before_irrefl (numbers : List Nat) : ¬ StartsBefore numbers numbers := by
  rintro ⟨first, later, one, other, less⟩
  rw [one] at other
  cases other
  exact Nat.lt_irrefl first less

variable {entries : List (Text × Nat)} {known : List Occurrence}

-- Groups of one line would have the same numbers, and so the same first one.
theorem gathers_once (gathers : Gathers entries known) : (known.map (·.line)).Nodup := by
  rw [List.Nodup, List.pairwise_map]
  have order := List.pairwise_map.mp gathers.order
  refine order.imp_of_mem ?_
  intro one other first second before same
  rw [gathers.numbers one first, gathers.numbers other second, same] at before
  exact starts_before_irrefl _ before

theorem gathers_head (gathers : Gathers entries known) {group : Occurrence} (member : group ∈ known) :
    ∃ first, group.numbers.head? = some first ∧ (group.line, first) ∈ entries := by
  have line : group.line ∈ entries.map (·.1) :=
    (gathers.lines group.line).mp (List.mem_map_of_mem member)
  obtain ⟨⟨line, number⟩, present, same⟩ := List.mem_map.mp line
  cases same
  have listed : number ∈ group.numbers := by
    rw [gathers.numbers group member]
    exact mem_numbers_of.mpr present
  cases numbers : group.numbers with
  | nil => simp [numbers] at listed
  | cons first others =>
      refine ⟨first, rfl, ?_⟩
      rw [← mem_numbers_of, ← gathers.numbers group member, numbers]
      exact List.mem_cons_self

theorem gathers_new (gathers : Gathers entries known) {line : Text} {number : Nat}
    (later : ∀ entry ∈ entries, entry.2 < number) (new : line ∉ known.map (·.line)) :
    Gathers (entries ++ [(line, number)]) (known ++ [⟨line, [number]⟩]) := by
  have absent : numbersOf entries line = [] := by
    rw [List.eq_nil_iff_forall_not_mem]
    intro other listed
    apply new
    rw [gathers.lines]
    exact List.mem_map_of_mem (mem_numbers_of.mp listed)
  constructor
  · intro other
    simp [gathers.lines other]
  · intro group member
    rw [numbers_of_concat]
    rcases List.mem_append.mp member with old | last
    · have different : line ≠ group.line := by
        rintro rfl
        exact new (List.mem_map_of_mem old)
      rw [if_neg different, List.append_nil, gathers.numbers group old]
    · rw [List.mem_singleton.mp last, if_pos rfl, absent, List.nil_append]
  · rw [List.map_append, List.pairwise_append]
    refine ⟨gathers.order, List.pairwise_singleton _ _, ?_⟩
    intro one listed other last
    obtain ⟨group, member, rfl⟩ := List.mem_map.mp listed
    obtain ⟨first, head, present⟩ := gathers_head gathers member
    rw [List.mem_singleton.mp last]
    exact ⟨first, number, head, rfl, later _ present⟩

-- The number goes to the end of a list that has a first number, so no group starts anew.
theorem gathers_known {front back : List Occurrence} {line : Text} {numbers : List Nat}
    (gathers : Gathers entries (front ++ ⟨line, numbers⟩ :: back)) (number : Nat) :
    Gathers (entries ++ [(line, number)]) (front ++ ⟨line, numbers ++ [number]⟩ :: back) := by
  have member : (⟨line, numbers⟩ : Occurrence) ∈ front ++ ⟨line, numbers⟩ :: back := by simp
  have present : line ∈ entries.map (·.1) :=
    (gathers.lines line).mp (List.mem_map_of_mem member)
  have fresh : line ∉ (front ++ back).map (·.line) := by
    have once := gathers_once gathers
    rw [List.map_append, List.map_cons, List.nodup_middle, List.nodup_cons, ← List.map_append] at once
    exact once.1
  have kept : ∀ group ∈ front ++ back,
      group.numbers = numbersOf (entries ++ [(line, number)]) group.line := by
    intro group listed
    have different : line ≠ group.line := by
      intro same
      rw [same] at fresh
      exact fresh (List.mem_map_of_mem listed)
    have old : group ∈ front ++ ⟨line, numbers⟩ :: back := by
      rw [List.mem_append] at listed ⊢
      exact listed.imp_right (List.mem_cons_of_mem _)
    rw [numbers_of_concat, if_neg different, List.append_nil, gathers.numbers group old]
  constructor
  · intro other
    have lines := gathers.lines other
    simp only [List.map_append, List.map_cons, List.map_nil, List.mem_append, List.mem_cons,
      List.not_mem_nil, or_false] at lines ⊢
    rw [lines]
    constructor
    · exact Or.inl
    · rintro (old | rfl)
      · exact old
      · exact present
  · intro group listed
    rcases List.mem_append.mp listed with before | after
    · exact kept group (List.mem_append_left back before)
    · rcases List.mem_cons.mp after with rfl | after
      · rw [numbers_of_concat, if_pos rfl, ← gathers.numbers _ member]
      · exact kept group (List.mem_append_right front after)
  · obtain ⟨first, head, -⟩ := gathers_head gathers member
    have same : (numbers ++ [number]).head? = numbers.head? := by
      rw [List.head?_append, head]
      rfl
    have order := gathers.order
    simp only [List.map_append, List.map_cons, List.pairwise_append, List.pairwise_cons,
      List.mem_cons, forall_eq_or_imp, StartsBefore, same] at order ⊢
    exact order

theorem gathers_add (gathers : Gathers entries known) {line : Text} {number : Nat}
    (later : ∀ entry ∈ entries, entry.2 < number) :
    Gathers (entries ++ [(line, number)]) (addOccurrence line number known) := by
  rcases add_occurrence_cases line number known with ⟨new, added⟩ | ⟨front, numbers, back, rfl, added⟩
  · rw [added]
    exact gathers_new gathers later new
  · rw [added]
    exact gathers_known gathers number

end Steps

section Runs

theorem gathers_all {entries : List (Text × Nat)}
    (ascending : entries.Pairwise fun one other => one.2 < other.2) :
    Gathers entries (entries.foldl
      (fun known numbered => addOccurrence numbered.1 numbered.2 known) []) := by
  induction entries using List.reverseRecOn with
  | nil =>
      constructor
      · intro line
        rfl
      · intro group member
        exact absurd member List.not_mem_nil
      · exact List.Pairwise.nil
  | append_singleton entries entry ih =>
      obtain ⟨before, -, last⟩ := List.pairwise_append.mp ascending
      rw [List.foldl_append]
      apply gathers_add (ih before)
      intro other member
      exact last other member entry List.mem_cons_self

theorem counted_lines_ascend (code : Text) :
    (countedLines code).Pairwise fun one other => one.2 < other.2 := by
  apply List.Pairwise.filter
  rw [← List.pairwise_map (f := Prod.snd), List.zipIdx_map_snd]
  exact List.pairwise_lt_range'

theorem counts_iff (line : Text) : countsForDuplication line = true ↔ Eligible line := by
  rw [countsForDuplication, Bool.and_eq_true, decide_eq_true_iff, Bool.not_eq_true', startsComment,
    Bool.or_eq_false_iff, Eligible, ← List.isPrefixOf_iff_prefix, ← List.isPrefixOf_iff_prefix,
    Bool.not_eq_true, Bool.not_eq_true]
  rfl

theorem mem_counted_lines {code line : Text} {number : Nat} :
    (line, number) ∈ countedLines code ↔ CopyAt code line number := by
  rw [countedLines, List.mem_filter, counts_iff, and_comm, CopyAt]
  apply and_congr_right
  intro _
  rw [List.mk_mem_zipIdx_iff_le_and_getElem?_sub, List.getElem?_map, Option.map_eq_some_iff]
  constructor
  · rintro ⟨positive, written, here, same⟩
    exact ⟨number - 1, written, by omega, here, same⟩
  · rintro ⟨index, written, rfl, here, same⟩
    exact ⟨by omega, written, here, same⟩

theorem occurrences_gather (code : Text) : Gathers (countedLines code) (occurrences code) :=
  gathers_all (counted_lines_ascend code)

theorem numbers_list_copies (code line : Text) :
    ListsCopies code line (numbersOf (countedLines code) line) := by
  constructor
  · intro number
    rw [mem_numbers_of, mem_counted_lines]
  · rw [numbersOf, List.pairwise_map]
    exact (counted_lines_ascend code).filter _

theorem copies_unique {code line : Text} {one other : List Nat} (first : ListsCopies code line one)
    (second : ListsCopies code line other) : one = other := by
  apply first.ascending.eq_of_mem_iff second.ascending
  intro number
  rw [first.all, second.all]

end Runs

section Reports

def repeats (code : Text) : List Occurrence :=
  (occurrences code).filter fun group => 3 ≤ group.numbers.length

theorem line_reads_once {code line other : Text} {number : Nat} (first : LineReads code number line)
    (second : LineReads code number other) : line = other := by
  obtain ⟨index, written, rfl, here, rfl⟩ := first
  obtain ⟨index', written', same, here', rfl⟩ := second
  cases Nat.succ.inj same
  rw [here] at here'
  cases here'
  rfl

theorem repeats_listed {code : Text} {group : Occurrence} (member : group ∈ repeats code) :
    ListsCopies code group.line group.numbers ∧ 3 ≤ group.numbers.length := by
  obtain ⟨known, enough⟩ := List.mem_filter.mp member
  constructor
  · rw [(occurrences_gather code).numbers group known]
    exact numbers_list_copies code group.line
  · exact of_decide_eq_true enough

theorem repeats_sublist (code : Text) : (repeats code).Sublist (occurrences code) :=
  List.filter_sublist

theorem mem_repeat_lines {code line : Text} :
    line ∈ (repeats code).map (·.line) ↔
      ∃ numbers, ListsCopies code line numbers ∧ 3 ≤ numbers.length := by
  have gathers := occurrences_gather code
  constructor
  · intro listed
    obtain ⟨group, member, rfl⟩ := List.mem_map.mp listed
    exact ⟨group.numbers, repeats_listed member⟩
  · rintro ⟨numbers, copies, enough⟩
    obtain rfl := copies_unique copies (numbers_list_copies code line)
    -- Three numbers are more than none, so the line was counted and has a group.
    obtain ⟨number, listed⟩ := List.exists_mem_of_length_pos (Nat.lt_of_lt_of_le (by decide) enough)
    have counted : line ∈ (countedLines code).map (·.1) :=
      List.mem_map_of_mem (mem_numbers_of.mp listed)
    obtain ⟨group, known, rfl⟩ := List.mem_map.mp ((gathers.lines line).mpr counted)
    apply List.mem_map_of_mem
    rw [repeats, List.mem_filter, gathers.numbers group known]
    exact ⟨known, decide_eq_true enough⟩

theorem repeats_group (code : Text) : GroupsRepeats code (repeats code) := by
  have once : ((repeats code).map (·.line)).Nodup :=
    (gathers_once (occurrences_gather code)).sublist ((repeats_sublist code).map _)
  constructor
  · intro line
    exact mem_repeat_lines
  · exact once
  · intro group member
    exact (repeats_listed member).1
  · exact (occurrences_gather code).order.sublist ((repeats_sublist code).map _)
  · rw [List.Nodup, List.pairwise_map] at once
    rw [List.pairwise_map]
    refine once.imp_of_mem ?_
    intro one other first second different number left right
    apply different
    have reads := (((repeats_listed first).1.all number).mp left).2
    exact line_reads_once reads (((repeats_listed second).1.all number).mp right).2

theorem check_duplication_reports (code : Text) :
    List.Forall₂ ReportsGroup (repeats code) (checkDuplication code) := by
  rw [checkDuplication, repeats]
  generalize occurrences code = groups
  induction groups with
  | nil => exact List.Forall₂.nil
  | cons group groups ih =>
      rw [List.filter_cons, List.filterMap_cons, duplicationViolation?, minDuplicateOccurrences]
      by_cases few : group.numbers.length < 3
      · rw [if_pos few, if_neg (by simpa using few)]
        exact ih
      · rw [if_neg few, if_pos (by simpa using few)]
        exact List.Forall₂.cons ⟨rfl, rfl, rfl, rfl⟩ ih

theorem line_note_injective : Function.Injective lineNote := by
  intro one other same
  have digits : toString one = toString other := String.append_right_inj _ |>.mp same
  rw [Nat.toString_eq_ofList_toDigits, Nat.toString_eq_ofList_toDigits, String.ofList_inj] at digits
  rw [← Nat.ofDigitChars_ten_toDigits (n := one), digits, Nat.ofDigitChars_ten_toDigits]

theorem report_evidence {groups : List Occurrence} {violations : List Violation}
    (reports : List.Forall₂ ReportsGroup groups violations) :
    violations.map (·.evidence) = (groups.map (·.numbers)).map (List.map lineNote) := by
  induction reports with
  | nil => rfl
  | cons report _ ih => rw [List.map_cons, report.evidence, ih, List.map_cons, List.map_cons]

theorem evidence_apart {groups : List Occurrence} {violations : List Violation}
    (apart : (groups.map (·.numbers)).Pairwise List.Disjoint)
    (reports : List.Forall₂ ReportsGroup groups violations) :
    (violations.map (·.evidence)).Pairwise List.Disjoint := by
  rw [report_evidence reports, List.pairwise_map]
  apply apart.imp
  intro one other disjoint
  exact List.disjoint_map line_note_injective disjoint

end Reports

/-- The violations for repeated lines share out the lines with three copies or more. -/
theorem repeated_lines_partitioned (code : Text) :
    ∃ groups, GroupsRepeats code groups ∧
      List.Forall₂ ReportsGroup groups (checkDuplication code) ∧
      ((checkDuplication code).map (·.evidence)).Pairwise List.Disjoint := by
  have groups := repeats_group code
  have reports := check_duplication_reports code
  exact ⟨repeats code, groups, reports, evidence_apart groups.apart reports⟩

end PatternInspector.TypeScript
