import PatternInspector.Config.Check
import PatternInspector.Files.Read
import PatternInspector.Yaml.Read

/-!
Rules and catalogues from the files of a configuration directory.
-/
namespace PatternInspector.Config

/-- Why a configuration file gives nothing, for a reader with faults of its own. -/
inductive LoadFaultOf (Fault : Type) where
  /-- There is no such file. -/
  | missing (file : String)
  /-- The file is no YAML document. -/
  | malformed (file : String)
  /-- The document breaks the rules for its content. -/
  | invalid (file : String) (issues : List Issue)
  /-- The file is a directory, or cannot be opened for another reason. -/
  | unreadable (fault : Files.AccessFault)
  /-- The bytes of the file are no text. -/
  | undecodable
  /-- The reader fails at something else than the form of the document. -/
  | unconvertible (fault : Fault)

abbrev LoadFault := LoadFaultOf Yaml.Fault

section Reading

inductive DocumentFault (Fault : Type) where
  /-- The text is no document. -/
  | malformed
  /-- The bytes are no text. -/
  | undecodable
  | other (fault : Fault)

structure Reader (Data Fault : Type) where
  read : List UInt8 → Except (DocumentFault Fault) Data
  /-- All bytes are decoded before there are data. -/
  decodes : ∀ {bytes data}, read bytes = .ok data → ∃ text, Utf8.decode bytes = .ok text

def readYaml (bytes : List UInt8) : Except (DocumentFault Yaml.Fault) Value :=
  match Utf8.decode bytes with
  | .error _ => .error .undecodable
  | .ok text =>
      match Yaml.read (Files.unifyNewlines text) with
      | .ok value => .ok value
      | .error .malformed => .error .malformed
      | .error fault => .error (.other fault)

theorem read_yaml_decodes {bytes : List UInt8} {value : Value}
    (read : readYaml bytes = .ok value) : ∃ text, Utf8.decode bytes = .ok text := by
  unfold readYaml at read
  split at read
  next => cases read
  next text decoded => exact ⟨text, decoded⟩

def yaml : Reader Value Yaml.Fault := ⟨readYaml, read_yaml_decodes⟩

variable {Data Fault α : Type}

/-- The document of a file in a folder. A file that is missing and one that holds no document
differ. -/
def readDocument (reader : Reader Data Fault) (files : Files.Tree) (folder file : String) :
    Except (LoadFaultOf Fault) (Option Data) :=
  let path := folder ++ "/" ++ file
  if !files.has path then .ok none
  else
    match files.bytes path with
    | .error fault => .error (.unreadable fault)
    | .ok bytes =>
        match reader.read bytes with
        | .ok data => .ok (some data)
        | .error .malformed => .error (.malformed file)
        | .error .undecodable => .error .undecodable
        | .error (.other fault) => .error (.unconvertible fault)

def loadRulesBy (reader : Reader Data Fault) (check : Data → Except (List Issue) α)
    (files : Files.Tree) (file : String) : Except (LoadFaultOf Fault) α := do
  match ← readDocument reader files "rules" file with
  | none => throw (.missing file)
  | some data =>
      match check data with
      | .ok rules => return rules
      | .error issues => throw (.invalid file issues)

end Reading

section Documents

/-- Empty documents count as empty mappings. -/
def orEmpty (value : Value) : Value := if value.isEmpty then .mapping none [] else value

def checkDocument {α : Type} (check : Value → Checked α) (value : Value) :
    Except (List Issue) α :=
  (check (orEmpty value)).toExcept

def loadRules {α : Type} (files : Files.Tree) (file : String) (check : Value → Checked α) :
    Except LoadFault α :=
  loadRulesBy yaml (checkDocument check) files file

/-- A catalogue; a missing one is empty. -/
def loadCatalog (files : Files.Tree) (file : String) : Except LoadFault Value := do
  match ← readDocument yaml files "catalog" file with
  | none => return .mapping none []
  | some value => return orEmpty value

end Documents

end PatternInspector.Config
