import PatternInspector.Proofs.Component.Gathering
import PatternInspector.Proofs.Files.Reading
import PatternInspector.Server.Tool

/-!
The entries for files, and the tools over them. An entry gives the report on the text of the file, or
it explains why there is none, and its tool passes either on. The one exception is a path that no
file can have: unless the entry refuses it before the files are looked at, the call is rejected.
-/
namespace PatternInspector.Inspection

open PatternInspector.Files (IsUsable Tree holds_named read_holds read_refused read_unusable)

section Sources

variable {sources : Tree} {path : FilePath} {text : Text}

theorem source_holds (usable : IsUsable path) (holds : sources.Holds path text) :
    Service.readSource sources path = .ok text := by
  rw [Service.readSource, read_holds usable holds]

theorem source_refused (usable : IsUsable path) (none : ∀ text, ¬ sources.Holds path text) :
    ∃ reason, Service.readSource sources path = .error (.unreadableFile path reason) := by
  rw [Service.readSource]
  rcases read_refused usable none with ⟨fault, refused⟩ | ⟨fault, refused⟩
  · rw [refused]
    exact ⟨_, rfl⟩
  · rw [refused]
    exact ⟨_, rfl⟩

theorem source_unusable (unusable : ¬ IsUsable path) :
    ∃ fault, Service.readSource sources path = .error (.unusablePath fault) := by
  obtain ⟨fault, refused⟩ := @read_unusable sources path unusable
  exact ⟨fault, by rw [Service.readSource, refused]⟩

theorem display_empty_iff : path.display = "" ↔ path = [] := by
  cases path with
  | nil => exact iff_of_true rfl rfl
  | cons point rest => cases point <;> simp [CodePoints.display, CodePoint.shown]

/-- A file that was read is reported under its path, never under a default name. -/
theorem source_named {default : String} (read : Service.readSource sources path = .ok text) :
    Service.nameOr default (some path.display) = path.display := by
  have named : path.display ≠ "" := by
    rw [ne_eq, display_empty_iff]
    rintro rfl
    have usable : IsUsable [] := ⟨by simp, by simp⟩
    obtain ⟨reason, refused⟩ := source_refused usable fun text (holds : sources.Holds [] text) =>
      holds_named holds rfl
    cases read.symm.trans refused
  rw [Service.nameOr, if_neg (by simpa using named)]

end Sources

section Entries

inductive FileEntry where
  | typescript
  | java
  | vue

namespace FileEntry

def onCode (entry : FileEntry) (service : Service) (code : Text) (filename : Option String) :
    Except Failure Service.Report :=
  match entry with
  | .typescript => .ok (.typescript (service.validateTypeScript code filename))
  | .java => (service.validateJava code filename).map .java
  | .vue => (service.validateVue code filename).map .vue

def onFile (entry : FileEntry) (service : Service) (sources : Tree) (path : FilePath) :
    Except Failure Service.Report :=
  match entry with
  | .typescript => (service.validateTypeScriptFile sources path).map .typescript
  | .java => (service.validateJavaFile sources path).map .java
  | .vue => (service.validateVueFile sources path).map .vue

/-- What is refused whatever the files hold: a language that is switched off, and a component in
place of a path. -/
def refusedFirst (entry : FileEntry) (service : Service) (path : FilePath) : Option Failure :=
  match entry with
  | .typescript => none
  | .java => if service.java.isNone then some (.unavailable .java) else none
  | .vue =>
      if Service.holdsMarkup path then some .contentAsPath
      else if service.vue.isNone then some (.unavailable .vue)
      else none

end FileEntry

def fileRefusalKinds : List String :=
  ["ValidatorUnavailableError", "InputShapeMismatchError", "FileReadError"]

variable {entry : FileEntry} {service : Service} {sources : Tree} {path : FilePath}
  {failure : Failure}

/-- An entry for files is the entry for code after reading, behind its own refusals. -/
theorem on_file_reads : entry.onFile service sources path =
    match entry.refusedFirst service path with
    | some failure => .error failure
    | none => Service.readSource sources path >>= fun text =>
        entry.onCode service text (some path.display) := by
  -- Java and Vue files are reported under the path itself, so the text decides about the name.
  cases entry with
  | typescript =>
      rw [FileEntry.onFile, Service.validateTypeScriptFile]
      cases Service.readSource sources path <;> rfl
  | java =>
      rw [FileEntry.onFile, Service.validateJavaFile, Service.javaRules, FileEntry.refusedFirst]
      cases java : service.java with
      | none => rfl
      | some rules =>
          cases read : Service.readSource sources path with
          | error failure => rfl
          | ok text =>
              simp [bind, Except.bind, pure, Except.pure, Except.map, FileEntry.onCode,
                Service.validateJava, Service.javaRules, java, source_named read]
  | vue =>
      rw [FileEntry.onFile, Service.validateVueFile, Service.vueRules, FileEntry.refusedFirst]
      by_cases markup : Service.holdsMarkup path = true
      · rw [if_pos markup, if_pos markup]
        rfl
      · rw [if_neg markup, if_neg markup]
        cases vue : service.vue with
        | none => rfl
        | some rules =>
            cases read : Service.readSource sources path with
            | error failure => rfl
            | ok text =>
                simp [bind, Except.bind, FileEntry.onCode, Service.validateVue,
                  Service.vueRules, vue, source_named read]

theorem inspect_component_succeeds (rules : Component.Rules) (code : Text) (filename : String) :
    ∃ report, Service.inspectComponent rules code filename = .ok report := by
  rw [Service.inspectComponent]
  cases result : Component.split code filename with
  | error fault =>
      exact ⟨_, by rw [Component.validate_fault rules result]⟩
  | ok descriptor =>
      obtain ⟨analysis, -, valid⟩ := Component.validate_split rules result
      exact ⟨_, by rw [valid]⟩

/-- A language that is not refused reports on every text. -/
theorem on_code_reports (passed : entry.refusedFirst service path = none) (code : Text)
    (filename : Option String) : ∃ report, entry.onCode service code filename = .ok report := by
  cases entry with
  | typescript => exact ⟨_, rfl⟩
  | java =>
      cases java : service.java with
      | none => simp [FileEntry.refusedFirst, java] at passed
      | some rules =>
          rw [FileEntry.onCode, Service.validateJava, Service.javaRules, java]
          exact ⟨_, rfl⟩
  | vue =>
      cases vue : service.vue with
      | none => by_cases markup : Service.holdsMarkup path = true <;>
          simp [FileEntry.refusedFirst, vue, markup] at passed
      | some rules =>
          obtain ⟨report, inspected⟩ := inspect_component_succeeds rules code
            (Service.nameOr Component.defaultFilename filename)
          refine ⟨.vue report, ?_⟩
          rw [FileEntry.onCode, Service.validateVue, Service.vueRules, vue]
          exact congrArg (Except.map Service.Report.vue) inspected

theorem refused_first_explained (first : entry.refusedFirst service path = some failure) :
    ∃ refusal, failure.refusal? = some refusal ∧ refusal.kind ∈ fileRefusalKinds := by
  cases entry with
  | typescript => cases first
  | java =>
      rw [FileEntry.refusedFirst] at first
      split at first
      · cases first
        exact ⟨_, rfl, by decide⟩
      · cases first
  | vue =>
      rw [FileEntry.refusedFirst] at first
      split at first
      · cases first
        exact ⟨_, rfl, by decide⟩
      · split at first
        · cases first
          exact ⟨_, rfl, by decide⟩
        · cases first

end Entries

end PatternInspector.Inspection

namespace PatternInspector.Server

open PatternInspector.Files (IsUsable Tree)
open PatternInspector.Inspection

section Tools

variable {entry : FileEntry} {service : Service} {files : Surroundings} {path : FilePath}

def pathArgument (path : String) : Value := .object [("filepath", .string path)]

def fileTool : FileEntry → Tool
  | .typescript => .validateFile
  | .java => .validateJavaFile
  | .vue => .validateVueFile

def pathAnswer : FileEntry → Service → Surroundings → FilePath → Option Value
  | .typescript => fileAnswer
  | .java => javaFileAnswer
  | .vue => vueFileAnswer

def reportAnswer : Service.Report → Value
  | .typescript report => typescriptAnswer report
  | .java report => javaAnswer report
  | .vue report => vueAnswer report

theorem answer_map {α β : Type} (render : β → Value) (wrap : α → β) (outcome : Except Failure α) :
    answer render (outcome.map wrap) = answer (fun report => render (wrap report)) outcome := by
  cases outcome <;> rfl

theorem path_answer_entry : pathAnswer entry service files path =
    answer reportAnswer (entry.onFile service files.sources path) := by
  cases entry <;> simp only [FileEntry.onFile, answer_map, reportAnswer] <;> rfl

-- A call brings a text, and so a path in which all surrogates have their pairs.
theorem call_path_answer (name : String) :
    (fileTool entry).call service files (pathArgument name) =
      pathAnswer entry service files name := by
  have checked : (checkPath (pathArgument name)).toExcept = .ok name := rfl
  cases entry <;> simp only [fileTool, Tool.call, withArguments, checked] <;> rfl

/-- The file is reported like its text, and the tool answers with the report. -/
def Reported (entry : FileEntry) (service : Service) (files : Surroundings) (path : FilePath) :
    Prop :=
  ∃ text report, entry.refusedFirst service path = none ∧ files.sources.Holds path text ∧
    entry.onCode service text (some path.display) = .ok report ∧
    entry.onFile service files.sources path = .ok report ∧
    pathAnswer entry service files path = some (reportAnswer report)

/-- The file is refused for a reason that the entry checks first, or because the path leads to no
text, and the tool answers with the refusal. -/
def Refused (entry : FileEntry) (service : Service) (files : Surroundings) (path : FilePath) :
    Prop :=
  ∃ failure refusal, (entry.refusedFirst service path = some failure ∨
      entry.refusedFirst service path = none ∧ (∀ text, ¬ files.sources.Holds path text) ∧
        ∃ reason, failure = .unreadableFile path reason) ∧
    entry.onFile service files.sources path = .error failure ∧
    failure.refusal? = some refusal ∧ refusal.kind ∈ fileRefusalKinds ∧
    pathAnswer entry service files path = some refusal.toValue

/-- The entry fails for the path alone, and the tool has no answer. -/
def Escapes (entry : FileEntry) (service : Service) (files : Surroundings) (path : FilePath) :
    Prop :=
  (∃ fault, entry.onFile service files.sources path = .error (.unusablePath fault)) ∧
    pathAnswer entry service files path = none

theorem reported_of_text {text : Text} (usable : IsUsable path)
    (passed : entry.refusedFirst service path = none) (holds : files.sources.Holds path text) :
    Reported entry service files path := by
  obtain ⟨report, given⟩ := on_code_reports passed text (some path.display)
  have outcome : entry.onFile service files.sources path = .ok report := by
    rw [on_file_reads, passed, source_holds usable holds]
    exact given
  refine ⟨text, report, passed, holds, given, outcome, ?_⟩
  rw [path_answer_entry, outcome, answer]

theorem refused_first {failure : Failure} (first : entry.refusedFirst service path = some failure) :
    Refused entry service files path := by
  obtain ⟨refusal, explained, kind⟩ := refused_first_explained first
  have outcome : entry.onFile service files.sources path = .error failure := by
    rw [on_file_reads, first]
  refine ⟨failure, refusal, .inl first, outcome, explained, kind, ?_⟩
  rw [path_answer_entry, outcome, answer, explained]
  rfl

theorem refused_unread (usable : IsUsable path) (passed : entry.refusedFirst service path = none)
    (unread : ∀ text, ¬ files.sources.Holds path text) : Refused entry service files path := by
  obtain ⟨reason, refused⟩ := source_refused usable unread
  have outcome : entry.onFile service files.sources path =
      .error (.unreadableFile path reason) := by
    rw [on_file_reads, passed, refused]
    rfl
  refine ⟨_, _, .inr ⟨passed, unread, reason, rfl⟩, outcome, rfl, by simp [fileRefusalKinds], ?_⟩
  rw [path_answer_entry, outcome]
  rfl

theorem unusable_escapes (unusable : ¬ IsUsable path)
    (passed : entry.refusedFirst service path = none) : Escapes entry service files path := by
  obtain ⟨fault, refused⟩ := @source_unusable files.sources path unusable
  have outcome : entry.onFile service files.sources path = .error (.unusablePath fault) := by
    rw [on_file_reads, passed, refused]
    rfl
  refine ⟨⟨fault, outcome⟩, ?_⟩
  rw [path_answer_entry, outcome]
  rfl

theorem escapes_unanswered (escapes : Escapes entry service files path) :
    ¬ (Reported entry service files path ∨ Refused entry service files path) := by
  rintro (⟨text, report, -, -, -, -, answered⟩ | ⟨failure, refusal, -, -, -, -, answered⟩)
  · cases escapes.2.symm.trans answered
  · cases escapes.2.symm.trans answered

/-- Every file is reported like its text or refused with an explanation, whatever the path, the files
and the rules, except at a path that no file can have and that is not refused first. There the entry
fails, and its tool has no answer. A call of the tool by name answers the same. -/
theorem file_answered_iff (entry : FileEntry) (service : Service) (files : Surroundings)
    (path : FilePath) :
    (Reported entry service files path ∨ Refused entry service files path ↔
      IsUsable path ∨ (entry.refusedFirst service path).isSome = true) ∧
    (¬ (IsUsable path ∨ (entry.refusedFirst service path).isSome = true) →
      Escapes entry service files path) ∧
    ∀ name : String, (fileTool entry).call service files (pathArgument name) =
      pathAnswer entry service files name := by
  have escaping : ¬ (IsUsable path ∨ (entry.refusedFirst service path).isSome = true) →
      Escapes entry service files path := by
    intro rejected
    rw [not_or] at rejected
    exact unusable_escapes rejected.1 (by simpa using rejected.2)
  refine ⟨⟨?_, ?_⟩, escaping, fun name => call_path_answer name⟩
  · intro answered
    by_contra rejected
    exact escapes_unanswered (escaping rejected) answered
  · intro allowed
    cases first : entry.refusedFirst service path with
    | some failure => exact .inr (refused_first first)
    | none =>
        have usable : IsUsable path := by simpa [first] using allowed
        by_cases holds : ∃ text, files.sources.Holds path text
        · obtain ⟨text, holds⟩ := holds
          exact .inl (reported_of_text usable first holds)
        · exact .inr (refused_unread usable first fun text held => holds ⟨text, held⟩)

-- No rule is needed and no file is looked at: the path alone makes the call fail.
theorem unusable_path_rejected :
    ({} : Service).validateTypeScriptFile {} "a\x00.ts" = .error (.unusablePath .null) ∧
      (∀ fault, (Failure.unusablePath fault).refusal? = none) ∧
      Tool.validateFile.call {} {} (pathArgument "a\x00.ts") = none ∧
      ({} : Service).validateTypeScriptFile {} [.surrogate 0] =
        .error (.unusablePath .unencodable) :=
  ⟨rfl, fun _ => rfl, rfl, rfl⟩

end Tools

end PatternInspector.Server
