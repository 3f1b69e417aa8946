import PatternInspector.Syntax.Node

/-!
Questions about the declarations of a syntax tree that several checks ask.
-/
namespace PatternInspector.TypeScript

open PatternInspector.Syntax (Node)
open PatternInspector.Syntax.Node (Visit)

def isClass (node : Node) : Bool :=
  ["class_declaration", "abstract_class_declaration"].contains node.kind

def isFunctionDeclaration (node : Node) : Bool :=
  ["function_declaration", "generator_function_declaration"].contains node.kind

def isFunction (node : Node) : Bool :=
  isFunctionDeclaration node ||
    ["function_expression", "function", "generator_function", "arrow_function"].contains node.kind

def isMethod (node : Node) : Bool := node.kind == "method_definition"

def declarationKeyword? (node : Node) : Option String :=
  (node.childOf? ["const", "let", "var"]).map Node.kind

def isAccessor (method : Node) : Bool := (method.childOf? ["get", "set"]).isSome

/-- The name that a declarator declares, if it is a plain one. -/
def declaredName? (declarator : Node) : Option Text :=
  match declarator.field? "name" with
  | none => none
  | some name => if name.kind == "identifier" then some name.label.text else none

def declarators (declaration : Node) : List Node :=
  declaration.namedChildren.filter fun child => child.kind == "variable_declarator"

/-- The name by which a function is shown: its own, else that of the variable it is assigned to. -/
def callableName (visit : Visit) : String :=
  match visit.node.field? "name" with
  | some name => name.text
  | none =>
      let assigned := (visit.parent.filter fun parent => parent.kind == "variable_declarator").bind
        declaredName?
      (assigned.map String.ofList).getD "無名関数"

def parameterCount (node : Node) : Nat :=
  match node.field? "parameters" with
  | some parameters => (parameters.namedChildren.filter fun child => child.kind != "comment").length
  | none => if (node.field? "parameter").isSome then 1 else 0

/-- Whether a member counts as a method of its class: neither accessor nor constructor. -/
def countsAsMethod (member : Node) : Bool :=
  isMethod member && !isAccessor member &&
    ((member.field? "name").map Node.text) != some "constructor"

def classMethodCount (node : Node) : Nat :=
  match node.field? "body" with
  | none => 0
  | some body => (body.namedChildren.filter countsAsMethod).length

end PatternInspector.TypeScript
