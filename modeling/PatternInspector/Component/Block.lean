import PatternInspector.Text.Basic
import PatternInspector.Value.Basic

/-!
Top-level blocks of a single-file component, and the descriptor that holds them by kind.
-/
namespace PatternInspector.Component

/-- An attribute of a block: its name, and its value unless it is bare. -/
structure Attribute where
  name : String
  value : Option String
  deriving DecidableEq

structure Block where
  kind : String
  content : Text
  attributes : List Attribute
  /-- Number of newlines before the content. -/
  lineOffset : Nat
  deriving DecidableEq

namespace Block

def has (block : Block) (name : String) : Bool := block.attributes.any (·.name == name)

/-- The language that the block declares, if it does so with a value. -/
def language (block : Block) : Option String :=
  (block.attributes.find? (·.name == "lang")).bind (·.value)

def isSetup (block : Block) : Bool := block.has "setup"

def isScoped (block : Block) : Bool := block.has "scoped"

/-- Line of the whole file that holds position `index` of the content, its start if negative. -/
def lineOf (block : Block) (index : Int) : Nat :=
  block.lineOffset + Text.newlines (block.content.take index.toNat) + 1

def toValue (block : Block) : Value := .object [
  ("type", .string block.kind),
  ("content", .string (String.ofList block.content)),
  ("attrs", .object (block.attributes.map fun given =>
    (given.name, match given.value with
      | some value => .string value
      | none => .bool true))),
  ("line_offset", .nat block.lineOffset)]

end Block

structure Descriptor where
  filename : String
  template : Option Block := none
  script : Option Block := none
  scriptSetup : Option Block := none
  styles : List Block := []
  customBlocks : List Block := []

namespace Descriptor

/-- The block that script findings refer to: the setup script if there is one. -/
def primaryScript (descriptor : Descriptor) : Option Block :=
  descriptor.scriptSetup <|> descriptor.script

def toValue (descriptor : Descriptor) : Value := .object [
  ("filename", .string descriptor.filename),
  ("template", .optional Block.toValue descriptor.template),
  ("script", .optional Block.toValue descriptor.script),
  ("script_setup", .optional Block.toValue descriptor.scriptSetup),
  ("styles", .items (descriptor.styles.map Block.toValue)),
  ("custom_blocks", .items (descriptor.customBlocks.map Block.toValue))]

end Descriptor

end PatternInspector.Component
