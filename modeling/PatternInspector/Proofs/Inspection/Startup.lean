import PatternInspector.Inspection.Service

/-!
When a configuration directory gives an inspector. The rules of a language depend on the content of
its own file alone. A file of an optional language that is missing, is no document or breaks the
rules for its content switches the language off; one that cannot be read as a text, or that holds a
scalar without a value, stops the start of all languages.
-/
namespace PatternInspector.Inspection

open PatternInspector.Config (Issue LoadFaultOf Reader loadRulesBy readDocument yaml)
open PatternInspector.Files (Content Tree)

variable {Data Fault : Type} {reader : Reader Data Fault}

section Loading

variable {α : Type} {file : String} {check : Data → Except (List Issue) α} {rules : α}
  {content : Option Content}

def rulesContent (config : Tree) (file : String) : Option Content :=
  (config.resolve ("rules" ++ "/" ++ file : String)).toOption

/-- There is a readable file whose bytes are a text, and its data pass as these rules. -/
def Configures (reader : Reader Data Fault) (check : Data → Except (List Issue) α)
    (content : Option Content) (rules : α) : Prop :=
  ∃ bytes text data, content = some (.file bytes) ∧ Utf8.decode bytes = .ok text ∧
    reader.read bytes = .ok data ∧ check data = .ok rules

/-- There is something that cannot be opened, or at which the reader fails for another reason than the
form of the document. -/
inductive Obstructs (reader : Reader Data Fault) : Option Content → Prop where
  | directory : Obstructs reader (some .directory)
  | locked : Obstructs reader (some .locked)
  | undecodable {bytes : List UInt8} (failed : reader.read bytes = .error .undecodable) :
      Obstructs reader (some (.file bytes))
  | unconvertible {bytes : List UInt8} {fault : Fault}
      (failed : reader.read bytes = .error (.other fault)) : Obstructs reader (some (.file bytes))

def rulesOf (reader : Reader Data Fault) (check : Data → Except (List Issue) α) (file : String) :
    Option Content → Except (LoadFaultOf Fault) α
  | none => .error (.missing file)
  | some .directory => .error (.unreadable .isADirectory)
  | some .locked => .error (.unreadable .permissionDenied)
  | some (.file bytes) =>
      match reader.read bytes with
      | .error .malformed => .error (.malformed file)
      | .error .undecodable => .error .undecodable
      | .error (.other fault) => .error (.unconvertible fault)
      | .ok data =>
          match check data with
          | .ok rules => .ok rules
          | .error issues => .error (.invalid file issues)

/-- The rules of a file depend on its content and on nothing else of the configuration. -/
theorem load_rules_content (config : Tree) :
    loadRulesBy reader check config file = rulesOf reader check file (rulesContent config file) := by
  rw [loadRulesBy, rulesContent, readDocument, Tree.has, Tree.bytes]
  cases config.resolve ("rules" ++ "/" ++ file : String) with
  | error fault => rfl
  | ok content =>
      cases content with
      | directory => rfl
      | locked => rfl
      | file bytes =>
          rw [Except.toOption, rulesOf]
          cases read : reader.read bytes with
          | error fault => cases fault <;> simp [bind, Except.bind, pure, Except.pure, read]
          | ok data => simp [bind, Except.bind, pure, Except.pure, read]; rfl

theorem rules_of_ok_iff :
    rulesOf reader check file content = .ok rules ↔ Configures reader check content rules := by
  constructor
  · intro loaded
    rcases content with _ | _ | _ | _
    case some.file bytes =>
      rw [rulesOf] at loaded
      cases read : reader.read bytes with
      | error fault => cases fault <;> simp [read] at loaded
      | ok data =>
          cases checked : check data with
          | error issues => simp [read, checked] at loaded
          | ok valid =>
              simp only [read, checked, Except.ok.injEq] at loaded
              obtain ⟨text, decoded⟩ := reader.decodes read
              exact ⟨bytes, text, data, rfl, decoded, read, loaded ▸ checked⟩
    all_goals cases loaded
  · rintro ⟨bytes, text, data, rfl, -, read, checked⟩
    simp only [rulesOf, read, checked]

/-- Of the contents without rules, those that obstruct are the ones that are not tolerated. -/
theorem rules_if_valid_error_iff :
    (∃ fault, rulesIfValid (rulesOf reader check file content) = .error fault) ↔
      Obstructs reader content := by
  constructor
  · rintro ⟨escaped, stopped⟩
    rcases content with _ | _ | _ | _
    case none => cases stopped
    case some.directory => exact .directory
    case some.locked => exact .locked
    case some.file bytes =>
      rw [rulesOf] at stopped
      cases read : reader.read bytes with
      | ok data => cases checked : check data <;> simp [read, checked, rulesIfValid] at stopped
      | error fault =>
          cases fault with
          | malformed => simp [read, rulesIfValid] at stopped
          | undecodable => exact .undecodable read
          | other fault => exact .unconvertible read
  · intro obstructs
    cases obstructs with
    | directory => exact ⟨_, rfl⟩
    | locked => exact ⟨_, rfl⟩
    | undecodable failed => exact ⟨.undecodable, by simp only [rulesOf, failed, rulesIfValid]⟩
    | @unconvertible bytes fault failed =>
        exact ⟨.unconvertible fault, by simp only [rulesOf, failed, rulesIfValid]⟩

theorem rules_if_valid_some_iff {loaded : Except (LoadFaultOf Fault) α} :
    rulesIfValid loaded = .ok (some rules) ↔ loaded = .ok rules := by
  rcases loaded with fault | found
  · cases fault <;> simp [rulesIfValid]
  · simp [rulesIfValid]

theorem rules_or_default_ok {default : α}
    (sound : content = none ∨ ∃ rules, Configures reader check content rules) :
    ∃ rules, rulesOrDefault default (rulesOf reader check file content) = .ok rules := by
  rcases sound with rfl | ⟨rules, configures⟩
  · exact ⟨default, rfl⟩
  · refine ⟨rules, ?_⟩
    rw [rules_of_ok_iff.mpr configures, rulesOrDefault]
    rintro _ ⟨⟩

/-- A language is switched on by rules of its own. -/
theorem switched_on_iff {found : Option α}
    (loaded : rulesIfValid (rulesOf reader check file content) = .ok found) :
    found.isSome = true ↔ ∃ rules, Configures reader check content rules := by
  constructor
  · intro present
    obtain ⟨rules, rfl⟩ := Option.isSome_iff_exists.mp present
    exact ⟨rules, rules_of_ok_iff.mp (rules_if_valid_some_iff.mp loaded)⟩
  · rintro ⟨rules, configures⟩
    have own : rulesOf reader check file content = .ok rules := rules_of_ok_iff.mpr configures
    cases loaded.symm.trans (rules_if_valid_some_iff.mpr own)
    rfl

/-- An optional language either stops the start or leaves it alone. -/
theorem rules_if_valid_ok_iff :
    (∃ found, rulesIfValid (rulesOf reader check file content) = .ok found) ↔
      ¬ Obstructs reader content := by
  rw [← @rules_if_valid_error_iff Data Fault reader α file check content]
  cases rulesIfValid (rulesOf reader check file content) <;> simp

end Loading

section Building

variable {checks : RuleChecks Data} {config : Tree} {service : Service}

theorem bind_ok_iff {ε α β : Type} {first : Except ε α} {next : α → Except ε β} {result : β} :
    first >>= next = .ok result ↔ ∃ value, first = .ok value ∧ next value = .ok result := by
  cases first <;> simp [bind, Except.bind]

theorem build_ok_iff : Service.buildBy reader checks config = .ok service ↔
    rulesOrDefault {} (rulesOf reader checks.typescript typescriptRulesFile
      (rulesContent config typescriptRulesFile)) = .ok service.typescript ∧
    rulesIfValid (rulesOf reader checks.java OptionalLanguage.java.rulesFile
      (rulesContent config OptionalLanguage.java.rulesFile)) = .ok service.java ∧
    rulesIfValid (rulesOf reader checks.vue OptionalLanguage.vue.rulesFile
      (rulesContent config OptionalLanguage.vue.rulesFile)) = .ok service.vue := by
  rw [Service.buildBy, load_rules_content, load_rules_content, load_rules_content]
  simp only [bind_ok_iff]
  constructor
  · rintro ⟨typescript, own, java, ownJava, vue, ownVue, same⟩
    cases same
    exact ⟨own, ownJava, ownVue⟩
  · rintro ⟨own, ownJava, ownVue⟩
    exact ⟨_, own, _, ownJava, _, ownVue, rfl⟩

/-- However the files are read and checked: with sound rules for TypeScript, or none, an inspector
starts unless the file of an optional language obstructs it. Each optional language is on if its own
file holds valid rules, and no file but its own changes what is reported on TypeScript. -/
theorem optional_rules_switch (reader : Reader Data Fault) (checks : RuleChecks Data)
    (config : Tree)
    (sound : rulesContent config typescriptRulesFile = none ∨
      ∃ rules,
        Configures reader checks.typescript (rulesContent config typescriptRulesFile) rules) :
    ((∃ service, Service.buildBy reader checks config = .ok service) ↔
      ∀ language : OptionalLanguage,
        ¬ Obstructs reader (rulesContent config language.rulesFile)) ∧
    ∀ service, Service.buildBy reader checks config = .ok service →
      (service.java.isSome = true ↔ ∃ rules, Configures reader checks.java
        (rulesContent config OptionalLanguage.java.rulesFile) rules) ∧
      (service.vue.isSome = true ↔ ∃ rules, Configures reader checks.vue
        (rulesContent config OptionalLanguage.vue.rulesFile) rules) ∧
      ∀ other beside,
        rulesContent other typescriptRulesFile = rulesContent config typescriptRulesFile →
        Service.buildBy reader checks other = .ok beside → ∀ code filename,
          beside.validateTypeScript code filename = service.validateTypeScript code filename := by
  constructor
  · constructor
    · rintro ⟨service, built⟩ language
      obtain ⟨-, java, vue⟩ := build_ok_iff.mp built
      cases language with
      | java => exact rules_if_valid_ok_iff.mp ⟨_, java⟩
      | vue => exact rules_if_valid_ok_iff.mp ⟨_, vue⟩
    · intro free
      obtain ⟨typescript, ownRules⟩ := rules_or_default_ok sound
      obtain ⟨java, javaRules⟩ := rules_if_valid_ok_iff.mpr (free .java)
      obtain ⟨vue, vueRules⟩ := rules_if_valid_ok_iff.mpr (free .vue)
      exact ⟨⟨typescript, java, vue⟩, build_ok_iff.mpr ⟨ownRules, javaRules, vueRules⟩⟩
  · intro service built
    obtain ⟨typescript, java, vue⟩ := build_ok_iff.mp built
    refine ⟨switched_on_iff java, switched_on_iff vue, ?_⟩
    intro other beside same builtBeside code filename
    obtain ⟨typescriptBeside, -, -⟩ := build_ok_iff.mp builtBeside
    rw [same] at typescriptBeside
    have equal : beside.typescript = service.typescript :=
      Except.ok.inj (typescriptBeside.symm.trans typescript)
    rw [Service.validateTypeScript, Service.validateTypeScript, equal]

/-- Empty rules for Java, and a list without an end in place of rules for Vue. -/
def halfConfigured : Tree :=
  (({} : Tree).put "rules/java.yaml" (some (.file []))).put "rules/vue.yaml" (some (.file [91]))

theorem half_configured_starts : ∃ service, Service.build halfConfigured = .ok service ∧
    (∀ language : OptionalLanguage,
      ¬ Obstructs yaml (rulesContent halfConfigured language.rulesFile)) ∧
    (∃ rules, Configures yaml ruleChecks.java
      (rulesContent halfConfigured OptionalLanguage.java.rulesFile) rules) ∧
    ¬ ∃ rules, Configures yaml ruleChecks.vue
      (rulesContent halfConfigured OptionalLanguage.vue.rulesFile) rules := by
  have absent : rulesContent halfConfigured typescriptRulesFile = none := by decide +kernel
  have languages : (Service.build halfConfigured).toOption.map
      (fun service => (service.java.isSome, service.vue.isSome)) = some (true, false) := by
    decide +kernel
  cases built : Service.build halfConfigured with
  | error fault => simp [built, Except.toOption] at languages
  | ok service =>
      simp only [built, Except.toOption, Option.map_some, Option.some.injEq, Prod.mk.injEq]
        at languages
      obtain ⟨starts, switches⟩ :=
        optional_rules_switch yaml ruleChecks halfConfigured (.inl absent)
      obtain ⟨java, vue, -⟩ := switches service built
      refine ⟨service, rfl, starts.mp ⟨service, built⟩, java.mp languages.1, ?_⟩
      intro configured
      simp [vue.mpr configured] at languages

def directoryForRules : Tree := ({} : Tree).put "rules/java.yaml" (some .directory)

-- Only the rules for Java are amiss, and still nothing is inspected, whatever reads the files.
theorem directory_stops_start : rulesContent directoryForRules typescriptRulesFile = none ∧
    rulesContent directoryForRules OptionalLanguage.vue.rulesFile = none ∧
    (∀ service, Service.build directoryForRules ≠ .ok service) ∧
    ∀ (Data Fault : Type) (reader : Reader Data Fault) (checks : RuleChecks Data) (service : Service),
      Service.buildBy reader checks directoryForRules ≠ .ok service := by
  have stopped : ∀ (Data Fault : Type) (reader : Reader Data Fault) (checks : RuleChecks Data)
      (service : Service), Service.buildBy reader checks directoryForRules ≠ .ok service := by
    intro Data Fault reader checks service built
    have directory : rulesContent directoryForRules OptionalLanguage.java.rulesFile =
        some .directory := by decide +kernel
    obtain ⟨-, java, -⟩ := build_ok_iff.mp built
    have free := rules_if_valid_ok_iff.mp ⟨_, java⟩
    rw [directory] at free
    exact free .directory
  exact ⟨by decide +kernel, by decide +kernel, stopped _ _ yaml ruleChecks, stopped⟩

end Building

end PatternInspector.Inspection
