import PatternInspector.Yaml.Plain
import PatternInspector.Yaml.Token

/-!
The nodes of a document: scalars and collections with their tags, aliases replaced by what they
stand for. Collections are numbered, so that one that is mentioned twice can be told from an equal
one.
-/
namespace PatternInspector.Yaml

section Nodes

inductive Node where
  | scalar (tag : Tag) (text : Text)
  | sequence (label : Nat) (tag : Tag) (items : List Node)
  | mapping (label : Nat) (tag : Tag) (entries : List (Node × Node))

def Node.absent : Node := .scalar .null []

mutual

/-- The node with another one in place of the collection of that label. -/
def Node.replaced (label : Nat) (whole : Node) : Node → Node
  | .scalar tag text => .scalar tag text
  | .sequence own tag items =>
      if own = label then whole else .sequence own tag (Node.replacedItems label whole items)
  | .mapping own tag entries =>
      if own = label then whole else .mapping own tag (Node.replacedEntries label whole entries)

def Node.replacedItems (label : Nat) (whole : Node) : List Node → List Node
  | [] => []
  | item :: rest => Node.replaced label whole item :: Node.replacedItems label whole rest

def Node.replacedEntries (label : Nat) (whole : Node) : List (Node × Node) → List (Node × Node)
  | [] => []
  | (key, content) :: rest =>
      (key, Node.replaced label whole content) :: Node.replacedEntries label whole rest

end

/-- A collection that is mentioned within itself, where it was empty while it was read, shows its
content there once more. -/
def Node.unrolled : Node → Node
  | .scalar tag text => .scalar tag text
  | .sequence label tag items =>
      .sequence label tag (Node.replacedItems label (.sequence label tag items) items)
  | .mapping label tag entries =>
      .mapping label tag (Node.replacedEntries label (.mapping label tag entries) entries)

end Nodes

section Reading

/-- The tokens still to be read, the nodes with an anchor, and the number of the next collection. -/
structure Reading where
  tokens : List Token
  anchors : List (String × Node) := []
  nextLabel : Nat := 0

abbrev ReadM := StateT Reading (Except Fault)

def malformed {α : Type} : ReadM α := throw .malformed

def peek : ReadM (Option Token) := return (← get).tokens.head?

def advance : ReadM Unit := modify fun reading => { reading with tokens := reading.tokens.drop 1 }

/-- Passes over the next token if it is of the given kind. -/
def accept (isWanted : Token → Bool) : ReadM Bool := do
  if (← peek).any isWanted then
    advance
    return true
  else return false

def newLabel : ReadM Nat := modifyGet fun reading =>
  (reading.nextLabel, { reading with nextLabel := reading.nextLabel + 1 })

/-- Notes what an anchor stands for; the node replaces the one noted while it was read. -/
def note (anchor : Option String) (node : Node) : ReadM Unit := modify fun reading =>
  match anchor with
  | none => reading
  | some name =>
      { reading with anchors := (name, node) :: reading.anchors.filter fun entry => entry.1 != name }

end Reading

section Properties

structure Properties where
  anchor : Option String := none
  /-- The full name of the tag. -/
  tag : Option String := none

abbrev Handles := List (String × String)

def defaultHandles : Handles := [("!", "!"), ("!!", "tag:yaml.org,2002:")]

def expandTag (handles : Handles) (handle : Option String) (suffix : String) : ReadM String :=
  match handle with
  | none => return suffix
  | some name =>
      match handles.lookup name with
      | some expansion => return expansion ++ suffix
      | none => malformed

def properties (handles : Handles) : ReadM Properties := do
  match ← peek with
  | some (.anchor name) =>
      advance
      match ← peek with
      | some (.tag handle suffix) =>
          advance
          return ⟨name, ← expandTag handles handle suffix⟩
      | _ => return ⟨name, none⟩
  | some (.tag handle suffix) =>
      advance
      match ← peek with
      | some (.anchor name) =>
          advance
          return ⟨name, ← expandTag handles handle suffix⟩
      | _ => return ⟨none, ← expandTag handles handle suffix⟩
  | _ => return {}

/-- An anchor must be new. -/
def checkAnchor (anchor : Option String) : ReadM Unit := do
  match anchor with
  | none => return
  | some name => if ((← get).anchors.lookup name).isSome then malformed

def Properties.isImplicit (found : Properties) : Bool := found.tag.isNone || found.tag == some "!"

def Properties.tagOr (found : Properties) (fallback : Tag) : Tag :=
  if found.isImplicit then fallback else Tag.ofName (found.tag.getD "")

/-- The tag of a scalar: that of a plain one without a tag depends on its text. -/
def Properties.scalarTag (found : Properties) (text : Text) (isPlain : Bool) : Tag :=
  match found.tag with
  | none => if isPlain then Tag.ofPlain text else .str
  | some "!" => Tag.ofPlain text
  | some name => Tag.ofName name

end Properties

section Grammar

inductive Place where
  | flow
  | block
  /-- After a key, where a sequence needs no indentation. -/
  | afterKey
  deriving DecidableEq

def isKey : Token → Bool
  | .key => true
  | _ => false

def isValue : Token → Bool
  | .value => true
  | _ => false

def isBlockEntry : Token → Bool
  | .blockEntry => true
  | _ => false

def isBlockEnd : Token → Bool
  | .blockEnd => true
  | _ => false

def isFlowEntry : Token → Bool
  | .flowEntry => true
  | _ => false

def isFlowSequenceEnd : Token → Bool
  | .flowSequenceEnd => true
  | _ => false

def isFlowMappingEnd : Token → Bool
  | .flowMappingEnd => true
  | _ => false

def nextIs (kinds : List (Token → Bool)) : ReadM Bool := do
  return (← peek).any fun token => kinds.any (· token)

def emptyContent (found : Properties) : ReadM Node :=
  if found.anchor.isSome || found.tag.isSome then return .scalar (found.scalarTag [] true) []
  else malformed

mutual

def node (handles : Handles) (place : Place) : Nat → ReadM Node
  | 0 => malformed
  | fuel + 1 => do
      if let some (.alias name) ← peek then
        advance
        match (← get).anchors.lookup name with
        | some found => return found
        | none => malformed
      else
        let found ← properties handles
        checkAnchor found.anchor
        let content ← content handles place found fuel
        if found.anchor.isNone then return content
        note found.anchor content.unrolled
        return content.unrolled

def content (handles : Handles) (place : Place) (found : Properties) : Nat → ReadM Node
  | 0 => malformed
  | fuel + 1 => do
      let sequence (items : ReadM (List Node)) : ReadM Node := do
        let label ← newLabel
        let tag := found.tagOr .seq
        note found.anchor (.sequence label tag [])
        return .sequence label tag (← items)
      let mapping (entries : ReadM (List (Node × Node))) : ReadM Node := do
        let label ← newLabel
        let tag := found.tagOr .map
        note found.anchor (.mapping label tag [])
        return .mapping label tag (← entries)
      match ← peek with
      | some .blockEntry =>
          if place == .afterKey then sequence (unindentedItems handles fuel)
          else emptyContent found
      | some (.scalar text isPlain) =>
          advance
          return .scalar (found.scalarTag text isPlain) text
      | some .flowSequenceStart =>
          advance
          sequence (flowItems handles true fuel)
      | some .flowMappingStart =>
          advance
          mapping (flowEntries handles true fuel)
      | some .blockSequenceStart =>
          if place == .flow then emptyContent found
          else
            advance
            sequence (blockItems handles fuel)
      | some .blockMappingStart =>
          if place == .flow then emptyContent found
          else
            advance
            mapping (blockEntries handles fuel)
      | _ => emptyContent found

def nodeUnless (handles : Handles) (place : Place) (ends : List (Token → Bool)) : Nat → ReadM Node
  | 0 => malformed
  | fuel + 1 => do if ← nextIs ends then return .absent else node handles place fuel

def blockItems (handles : Handles) : Nat → ReadM (List Node)
  | 0 => malformed
  | fuel + 1 => do
      if ← accept isBlockEntry then
        let item ← nodeUnless handles .block [isBlockEntry, isBlockEnd] fuel
        return item :: (← blockItems handles fuel)
      else if ← accept isBlockEnd then return []
      else malformed

def unindentedItems (handles : Handles) : Nat → ReadM (List Node)
  | 0 => malformed
  | fuel + 1 => do
      if ← accept isBlockEntry then
        let item ← nodeUnless handles .block [isBlockEntry, isKey, isValue, isBlockEnd] fuel
        return item :: (← unindentedItems handles fuel)
      else return []

def blockEntries (handles : Handles) : Nat → ReadM (List (Node × Node))
  | 0 => malformed
  | fuel + 1 => do
      if ← accept isBlockEnd then return []
      else
        if !(← accept isKey) then malformed
        let key ← nodeUnless handles .afterKey [isKey, isValue, isBlockEnd] fuel
        let value ← if ← accept isValue then
            nodeUnless handles .afterKey [isKey, isValue, isBlockEnd] fuel
          else pure .absent
        return (key, value) :: (← blockEntries handles fuel)

def flowItems (handles : Handles) (isFirst : Bool) : Nat → ReadM (List Node)
  | 0 => malformed
  | fuel + 1 => do
      if ← accept isFlowSequenceEnd then return []
      if !isFirst then
        if !(← accept isFlowEntry) then malformed
      if ← accept isKey then
        let label ← newLabel
        let key ← nodeUnless handles .flow [isValue, isFlowEntry, isFlowSequenceEnd] fuel
        let value ← if ← accept isValue then
            nodeUnless handles .flow [isFlowEntry, isFlowSequenceEnd] fuel
          else pure .absent
        return .mapping label .map [(key, value)] :: (← flowItems handles false fuel)
      else if ← accept isFlowSequenceEnd then return []
      else
        let item ← node handles .flow fuel
        return item :: (← flowItems handles false fuel)

def flowEntries (handles : Handles) (isFirst : Bool) : Nat → ReadM (List (Node × Node))
  | 0 => malformed
  | fuel + 1 => do
      if ← accept isFlowMappingEnd then return []
      if !isFirst then
        if !(← accept isFlowEntry) then malformed
      if ← accept isKey then
        let key ← nodeUnless handles .flow [isValue, isFlowEntry, isFlowMappingEnd] fuel
        let value ← if ← accept isValue then
            nodeUnless handles .flow [isFlowEntry, isFlowMappingEnd] fuel
          else pure .absent
        return (key, value) :: (← flowEntries handles false fuel)
      else if ← accept isFlowMappingEnd then return []
      else
        let key ← node handles .flow fuel
        return (key, .absent) :: (← flowEntries handles false fuel)

end

end Grammar

section Documents

/-- Directives before a document: a version that is supported, and handles, each once. -/
def directives (versionSeen : Bool) (handles : Handles) : Nat → ReadM Handles
  | 0 => malformed
  | fuel + 1 => do
      match ← peek with
      | some (.directive (.version major)) =>
          if versionSeen || major != 1 then malformed
          advance
          directives true handles fuel
      | some (.directive (.handle name expansion)) =>
          if (handles.lookup name).isSome then malformed
          advance
          directives versionSeen ((name, expansion) :: handles) fuel
      | some (.directive .other) =>
          advance
          directives versionSeen handles fuel
      | _ => return handles

def isDocumentEnd : Token → Bool
  | .documentEnd => true
  | _ => false

def isDocumentStart : Token → Bool
  | .documentStart => true
  | _ => false

def isDirective : Token → Bool
  | .directive _ => true
  | _ => false

def skipDocumentEnds : Nat → ReadM Unit
  | 0 => return
  | fuel + 1 => do if ← accept isDocumentEnd then skipDocumentEnds fuel

def explicitDocument (fuel : Nat) : ReadM Node := do
  let own ← directives false [] fuel
  let handles := own ++ defaultHandles.filter fun entry => (own.lookup entry.1).isNone
  if !(← accept isDocumentStart) then malformed
  if (← peek).isNone || (← nextIs [isDirective, isDocumentStart, isDocumentEnd]) then return .absent
  else node handles .block fuel

/-- The one document of a text, none if the text holds nothing. -/
def document (fuel : Nat) : ReadM (Option Node) := do
  if (← peek).isNone then return none
  let found ← if ← nextIs [isDirective, isDocumentStart] then explicitDocument fuel
    else node defaultHandles .block fuel
  skipDocumentEnds fuel
  if (← peek).isSome then malformed
  return some found

def readNode (text : Text) : Except Fault (Option Node × Nat) := do
  let found ← tokens text
  let fuel := 4 * (found.length + 1)
  let (result, _) ← (document fuel).run { tokens := found }
  return (result, fuel)

end Documents

end PatternInspector.Yaml
