import PatternInspector.Component.Version
import PatternInspector.Files.Path
import PatternInspector.Literal.Entry

/-!
Extraction of a component's outline from its blocks.

Both scripts are searched for imports, calls and exports of composables, and property and event
macros; the plain script is also searched for the options object. Version inference comes last,
because it reads what the extraction found.
-/
namespace PatternInspector.Component

open PatternInspector.Text (Reader)
open PatternInspector.Literal (ScanFault Entry Closing findClosing entriesBy entryKeys stringItems)

section Imports

def quotedSource : Reader Text := do
  let _ ← Reader.char Text.isQuote
  let source ← Reader.matched (Reader.many1 fun c => !Text.isQuote c)
  let _ ← Reader.char Text.isQuote
  return source

/-- What is imported: names in braces, a namespace, or a single name. -/
def importClause : Reader Unit :=
  Reader.oneOf [
    (do
      Reader.single '\x7b'
      Reader.many notCloseBrace
      Reader.single '\x7d'),
    (do
      Reader.single '*'
      Reader.blanks1
      Reader.word "as"
      Reader.blanks1
      Reader.many1 Text.isNamePart),
    Reader.many1 Text.isNamePart]

def importSource : Reader Text :=
  Reader.orElse
    (do
      Reader.word "import"
      Reader.blanks1
      let _ ← Reader.optional do
        Reader.word "type"
        Reader.blanks1
      let _ ← Reader.optional do
        Reader.many1 Text.isNamePart
        Reader.blanks
        Reader.single ','
        Reader.blanks
      importClause
      Reader.blanks1
      Reader.word "from"
      Reader.blanks1
      quotedSource)
    (do
      Reader.word "import"
      Reader.blanks1
      quotedSource)

end Imports

section Composables

def composableName : Reader Text := Reader.matched do
  Reader.word "use"
  let _ ← Reader.char Text.isUpperLetter
  Reader.many Text.isNamePart

def composableCall : Reader Text := do
  Reader.notAfter fun c => Text.isNamePart c || c == '.'
  let name ← composableName
  Reader.blanks
  Reader.single '('
  return name

def functionKeywordAtEnd : Reader Unit := do
  Reader.word "function"
  Reader.blanks
  let _ ← Reader.optional (Reader.single '*')
  Reader.blanks
  Reader.atEnd

/-- How many characters before a name are searched for the keyword that declares it. -/
def keywordReach : Nat := 16

/-- Whether the name at `start` is being declared as a function. -/
def isDeclaredAt (content : Text) (start : Nat) : Bool :=
  Reader.occurs functionKeywordAtEnd (Text.slice content (start - keywordReach) start)

def calledComposables (content : Text) : List String :=
  (Reader.findAll composableCall content).filterMap fun found =>
    if isDeclaredAt content found.start then none else some (String.ofList found.value)

def exportedComposable : Reader Text :=
  Reader.orElse
    (do
      Reader.word "export"
      Reader.blanks1
      let _ ← Reader.optional do
        Reader.word "async"
        Reader.blanks1
      Reader.word "function"
      Reader.blanks
      let _ ← Reader.optional (Reader.single '*')
      Reader.blanks
      composableName)
    (do
      Reader.word "export"
      Reader.blanks1
      Reader.words ["const", "let"]
      Reader.blanks1
      composableName)

end Composables

section Macros

/-- A property or event macro up to the bracket that opens its type or its argument. -/
def macroCall (name : String) : Reader Unit := do
  keyword name
  Reader.blanks
  Reader.orElse (Reader.single '<') (do
    Reader.single '('
    Reader.blanks
    let _ ← Reader.char fun c => c == '[' || c == '\x7b')

/-- A call signature whose first parameter has a quoted type: the event it stands for. -/
def emitSignature : Reader Text := do
  Reader.single '('
  Reader.blanks
  Reader.many1 Text.isNamePart
  Reader.blanks
  Reader.single ':'
  Reader.blanks
  Literal.quotedItem

/-- The declaration of a named type up to the brace that opens it. -/
def typeDeclaration (name : Text) : Reader Unit := do
  Reader.orElse
    (do
      Reader.word "interface"
      Reader.blanks1
      Reader.chars name
      Reader.wordEdge
      Reader.many (· != '\x7b'))
    (do
      Reader.word "type"
      Reader.blanks1
      Reader.chars name
      Reader.blanks
      Reader.single '='
      Reader.blanks)
  Reader.single '\x7b'

variable {m : Type → Type} [Monad m] (closing : Closing m)

/-- Names declared by a type literal; for events, the quoted types of call signatures come first. -/
def typeLiteralKeys (isEmits : Bool) (literal : Text) : m (List String) :=
  let events := if isEmits then Reader.findAll emitSignature literal else []
  if events.isEmpty then entryKeys closing literal 0 true
  else return events.map fun found => String.ofList found.value

/-- Names declared by a type argument: a literal, or the name of a type declared in the script. -/
def typeArgumentKeys (content : Text) (isEmits : Bool) (argument : Text) : m (List String) := do
  if argument.head? == some '\x7b' then typeLiteralKeys closing isEmits argument
  else
    match (Reader.matched Reader.name).first? (Text.Cursor.start argument) with
    | none => return []
    | some (name, _) =>
        match Reader.search (typeDeclaration name) content with
        | none => return []
        | some declaration =>
            let bodyStart := declaration.stop - 1
            match ← closing content bodyStart with
            | none => return []
            | some close => typeLiteralKeys closing isEmits (Text.slice content bodyStart (close + 1))

/-- Names that a macro call declares by its type argument or its run-time argument. -/
def macroKeys (content : Text) (isEmits : Bool) (found : Reader.Found Unit) :
    m (List String) := do
  let opener := found.stop - 1
  if content[opener]? == some '<' then
    match ← closing content opener with
    | none => return []
    | some close =>
        typeArgumentKeys closing content isEmits
          (Text.strip (Text.slice content (opener + 1) close))
  else if content[opener]? == some '[' then
    match ← closing content opener with
    | none => return []
    | some close => return stringItems (Text.slice content opener close)
  else entryKeys closing content opener false

def macroNames (content : Text) (name : String) (isEmits : Bool) : m (List String) :=
  return (← (Reader.findAll (macroCall name) content).mapM
    (macroKeys closing content isEmits)).flatten

end Macros

section Options

/-- The default export up to the brace of its options object. -/
def exportDefault : Reader Unit := do
  Reader.word "export"
  Reader.blanks1
  Reader.word "default"
  Reader.blanks1
  let _ ← Reader.optional do
    Reader.words ["defineComponent", "Vue.extend"]
    Reader.blanks
    Reader.single '('
    Reader.blanks
  Reader.single '\x7b'

def mixinName : Reader Text := Reader.matched do
  let _ ← Reader.char Text.isNameStart
  Reader.many fun c => Text.isNamePart c || c == '.'

def returnedObject : Reader Unit :=
  Reader.orElse
    (do
      keyword "return"
      Reader.blanks
      Reader.single '\x7b')
    (do
      Reader.word "=>"
      Reader.blanks
      Reader.single '('
      Reader.blanks
      Reader.single '\x7b')

variable {m : Type → Type} [Monad m] (closing : Closing m)

def nestedKeys (value : Text) : m (List String) :=
  if value.head? == some '\x7b' then entryKeys closing value 0 false else return []

def arrayNames (value : Text) : m (List String) := do
  if value.head? == some '[' then
    let inside :=
      match ← closing value 0 with
      | none => value.drop 1
      | some close => Text.slice value 1 close
    return (Reader.findAll mixinName inside).map fun found => String.ofList found.value
  else return []

def declaredNames (value : Text) : m (List String) := do
  if value.head? == some '[' then
    match ← closing value 0 with
    | none => return stringItems value
    | some close => return stringItems (value.take (close + 1))
  else nestedKeys closing value

def dataKeys (value : Text) : m (List String) :=
  match Reader.search returnedObject value with
  | none => return []
  | some found => entryKeys closing value (found.stop - 1) false

/-- Takes over one member of the options object. Properties and events declared before stay. -/
def addOption (outline : Outline) (entry : Entry) : m Outline := do
  match entry.key with
  | "mixins" =>
      return { outline with mixins := outline.mixins ++ (← arrayNames closing entry.value) }
  | "filters" =>
      return { outline with filters := outline.filters ++ (← nestedKeys closing entry.value) }
  | "data" => return { outline with data := outline.data ++ (← dataKeys closing entry.value) }
  | "methods" =>
      return { outline with methods := outline.methods ++ (← nestedKeys closing entry.value) }
  | "computed" =>
      return { outline with computed := outline.computed ++ (← nestedKeys closing entry.value) }
  | "watch" => return { outline with watch := outline.watch ++ (← nestedKeys closing entry.value) }
  | "props" =>
      if outline.props.isEmpty then
        return { outline with props := ← declaredNames closing entry.value }
      else return outline
  | "emits" =>
      if outline.emits.isEmpty then
        return { outline with emits := ← declaredNames closing entry.value }
      else return outline
  | _ => return outline

/-- Takes over the options object that the script exports by default. -/
def addOptions (script : Text) (outline : Outline) : m Outline := do
  match Reader.search exportDefault script with
  | none => return outline
  | some found =>
      (← entriesBy closing script (found.stop - 1) false).foldlM (addOption closing) outline

end Options

section Assembly

variable {m : Type → Type} [Monad m] (closing : Closing m)

def addScript (content : Text) (outline : Outline) : m Outline := do
  let sources := (Reader.findAll importSource content).map fun found => String.ofList found.value
  let exported :=
    (Reader.findAll exportedComposable content).map fun found => String.ofList found.value
  return { outline with
    imports := outline.imports ++ sources
    composables := outline.composables ++ calledComposables content
    exports := outline.exports ++ exported
    props := outline.props ++ (← macroNames closing content "defineProps" false)
    emits := outline.emits ++ (← macroNames closing content "defineEmits" true) }

def componentName (filename : String) : String :=
  let stem := (Path.stem filename).display
  if stem.isEmpty then "Unknown" else stem

def isTypescript (block : Block) : Bool :=
  block.language == some "ts" || block.language == some "tsx"

def emptyOutline (descriptor : Descriptor) : Outline := {
  name := componentName descriptor.filename
  isScriptSetup := descriptor.scriptSetup.isSome
  hasTypescript := descriptor.script.any isTypescript || descriptor.scriptSetup.any isTypescript
  template := descriptor.template.map (·.content)
  script := descriptor.script.map (·.content)
  scriptSetup := descriptor.scriptSetup.map (·.content)
  styles := descriptor.styles.map fun block => ⟨block.content, block.isScoped, block.language⟩ }

def withoutRepetitions (outline : Outline) : Outline := { outline with
  imports := distinct outline.imports
  exports := distinct outline.exports
  props := distinct outline.props
  emits := distinct outline.emits
  composables := distinct outline.composables
  mixins := distinct outline.mixins
  filters := distinct outline.filters
  data := distinct outline.data
  methods := distinct outline.methods
  computed := distinct outline.computed
  watch := distinct outline.watch }

/-- The flags and the version, which follow from what was found. -/
def withVersion (script scriptSetup : Text) (outline : Outline) : Outline :=
  let flagged := { outline with
    usesOptionsApi := detectOptionsApi script outline
    usesCompositionApi := detectCompositionApi script scriptSetup outline }
  { flagged with version := inferVersion flagged script scriptSetup }

def extractBy (descriptor : Descriptor) : m Outline := do
  let mut outline := emptyOutline descriptor
  if let some block := descriptor.script then
    outline ← addScript closing block.content outline
    outline ← addOptions closing block.content outline
  if let some block := descriptor.scriptSetup then
    outline ← addScript closing block.content outline
  let script := (descriptor.script.map (·.content)).getD []
  let scriptSetup := (descriptor.scriptSetup.map (·.content)).getD []
  return withoutRepetitions (withVersion script scriptSetup outline)

def extract (descriptor : Descriptor) : Except ScanFault Outline := extractBy findClosing descriptor

end Assembly

end PatternInspector.Component
