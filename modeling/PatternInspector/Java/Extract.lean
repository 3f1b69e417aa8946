import PatternInspector.Java.ClassModel
import PatternInspector.Java.Report
import PatternInspector.Syntax.Fault

/-!
Class models from syntax trees. Classes and interfaces are found wherever they are declared, also
inside methods and other types; types are reduced to simple names.
-/
namespace PatternInspector.Java

open PatternInspector.Syntax (Node)

section Names

def simpleName (name : String) : String :=
  String.ofList (name.toList.reverse.takeWhile (· != '.')).reverse

def fieldText (node : Node) (name : String) : String :=
  ((node.field? name).map Node.text).getD "Unknown"

end Names

section Types

def annotationKinds : List String := ["marker_annotation", "annotation"]

abbrev NamedTypes := List (Node × String)

def lastName (types : NamedTypes) : Option String := types.getLast?.map (·.2)

/-- The name of a type from those of its parts: qualified names count by their last part, generic
types by their base, and arrays by their elements. -/
def nameFromParts (node : Node) (parts : NamedTypes) : String :=
  match node.kind with
  | "void_type" => "void"
  | "integral_type" | "floating_point_type" | "boolean_type" | "type_identifier" => node.text
  | "scoped_type_identifier" =>
      ((parts.filter fun part => part.1.kind == "type_identifier").getLast?.map
        (·.1.text)).getD (simpleName node.text)
  | "generic_type" =>
      ((parts.find? fun part =>
        ["type_identifier", "scoped_type_identifier"].contains part.1.kind).map (·.2)).getD "unknown"
  | "array_type" =>
      ((parts.find? fun part => part.1.hasField "element").map (·.2)).getD "unknown"
  | "annotated_type" =>
      (lastName (parts.filter fun part =>
        part.1.label.isNamed && !annotationKinds.contains part.1.kind)).getD "unknown"
  | _ => simpleName node.text

mutual

def typeName : Node → String
  | .mk label children => nameFromParts (.mk label children) (typeNames children)

def typeNames : List Node → NamedTypes
  | [] => []
  | node :: rest => (node, typeName node) :: typeNames rest

end

def optionalTypeName (fallback : String) (node : Option Node) : String :=
  (node.map typeName).getD fallback

def listedTypes (node : Node) : List String :=
  match node.childOf? ["type_list"] with
  | none => []
  | some types => types.namedChildren.map typeName

end Types

section Members

structure Modifiers where
  keywords : List String := []
  annotations : List String := []

def Modifiers.has (modifiers : Modifiers) (keyword : String) : Bool :=
  modifiers.keywords.contains keyword

def modifiersOf (node : Node) : Modifiers :=
  match node.childOf? ["modifiers"] with
  | none => {}
  | some modifiers => {
      keywords := (modifiers.children.filter fun child =>
        !annotationKinds.contains child.kind && !child.label.isNamed).map Node.kind
      annotations := (modifiers.children.filter fun child =>
        annotationKinds.contains child.kind).map fun child => simpleName (fieldText child "name") }

def parameterOf? (node : Node) : Option Parameter :=
  match node.kind with
  | "formal_parameter" =>
      some ⟨fieldText node "name", optionalTypeName "unknown" (node.field? "type")⟩
  | "spread_parameter" =>
      let name := ((node.childOf? ["variable_declarator"]).map (fieldText · "name")).getD "unknown"
      let type := node.namedChildren.find? fun child =>
        !(["modifiers", "variable_declarator"].contains child.kind)
      some ⟨name, optionalTypeName "unknown" type⟩
  | _ => none

def parametersOf (node : Node) : List Parameter :=
  match node.field? "parameters" with
  | none => []
  | some parameters => parameters.namedChildren.filterMap parameterOf?

/-- A method of an interface is public unless it is private, and abstract if it has neither a body
nor the keyword static. -/
def methodOf (inInterface : Bool) (node : Node) : Method :=
  let modifiers := modifiersOf node
  let isStatic := modifiers.has "static"
  let isPrivate := modifiers.has "private"
  { name := fieldText node "name"
    isAbstract :=
      if inInterface then (node.field? "body").isNone && !isStatic else modifiers.has "abstract"
    isStatic
    isPrivate
    isPublic := if inInterface then !isPrivate else modifiers.has "public"
    returnType := some (optionalTypeName "void" (node.field? "type"))
    parameters := parametersOf node
    annotations := modifiers.annotations
    line := some node.line }

def constructorOf (className : String) (node : Node) : Method :=
  let modifiers := modifiersOf node
  { name := className
    isPrivate := modifiers.has "private"
    isPublic := modifiers.has "public"
    parameters := parametersOf node
    annotations := modifiers.annotations
    line := some node.line }

/-- The field of a declarator. The fields of an interface are constants. -/
def fieldOf (inInterface : Bool) (node declarator : Node) : Field :=
  let modifiers := modifiersOf node
  { name := fieldText declarator "name"
    type := optionalTypeName "unknown" (node.field? "type")
    isStatic := inInterface || modifiers.has "static"
    isFinal := inInterface || modifiers.has "final"
    isPrivate := modifiers.has "private"
    modifiers := modifiers.keywords ++ modifiers.annotations }

def fieldsOf (inInterface : Bool) (node : Node) : List Field :=
  (node.fields "declarator").map (fieldOf inInterface node)

end Members

section Classes

def isFieldDeclaration (node : Node) : Bool :=
  ["field_declaration", "constant_declaration"].contains node.kind

def methodOf? (inInterface : Bool) (className : String) (node : Node) : Option Method :=
  match node.kind with
  | "method_declaration" => some (methodOf inInterface node)
  | "constructor_declaration" => some (constructorOf className node)
  | _ => none

/-- The first type that an interface extends, or the superclass of a class. -/
def baseOf (node : Node) (isInterface : Bool) : Option String :=
  if isInterface then
    (node.childOf? ["extends_interfaces"]).bind fun extended => (listedTypes extended).head?
  else
    (node.field? "superclass").bind fun superclass =>
      (superclass.namedChildren.find? fun child => child.kind != "annotation").map typeName

def isTypeDeclaration (node : Node) : Bool :=
  ["class_declaration", "interface_declaration"].contains node.kind

/-- The name of the first class or interface on the way up, the parent coming first. -/
def enclosingName : List Node → Option String
  | [] => none
  | parent :: above =>
      if isTypeDeclaration parent then some (fieldText parent "name") else enclosingName above

def classOf (outerName : Option String) (node : Node) : ClassModel :=
  let name := fieldText node "name"
  let isInterface := node.kind == "interface_declaration"
  let modifiers := modifiersOf node
  let members := ((node.field? "body").map Node.namedChildren).getD []
  { name
    isInterface
    isAbstract := !isInterface && modifiers.has "abstract"
    methods := members.filterMap (methodOf? isInterface name)
    fields := (members.filter isFieldDeclaration).flatMap (fieldsOf isInterface)
    implements :=
      if isInterface then [] else ((node.field? "interfaces").map listedTypes).getD []
    extends' := baseOf node isInterface
    annotations := modifiers.annotations
    modifiers := modifiers.keywords
    outerName
    line := some node.line }

/-- The classes and interfaces of a tree, in the order of a walk. -/
def classes (root : Node) : List ClassModel :=
  (root.visits.filter fun visit => isTypeDeclaration visit.node).map fun visit =>
    classOf (enclosingName visit.ancestors) visit.node

end Classes

/-- The report on a syntax tree, or on the fault that stands in its place. -/
def reportOnTree (rules : Rules) (filename : String) : Except Syntax.Fault Node → Report
  | .error fault => faultReport filename fault
  | .ok root => reportOn rules filename (classes root)

end PatternInspector.Java
