import Mathlib.Order.Filter.AtTopBot.Basic
import PatternInspector.Proofs.Java.Comment
import PatternInspector.Proofs.Syntax.Parser

/-!
Type expressions of Java, their syntax nodes and their names.

Arrays and annotations nest in any way, but in a syntax tree all annotations of a type stand before it
and all its dimensions behind it, as they do in the text: `@A int[]` is an annotated type of an array,
whether the annotation is meant for the array or for its elements. The shape of a node is therefore
said for a type together with the annotations and the dimensions around it.
-/
namespace PatternInspector.Java

open PatternInspector.Syntax (Node)
open PatternInspector.Syntax.Parser (Accepts Single Covers)
open PatternInspector.Text (Avoids)

section Expressions

/-- What comes next in the text, behind blanks, is none of the marks. -/
def NextAvoids (marks : List Char) (text : Text) : Prop :=
  Avoids marks.contains (text.dropWhile Grammar.isBlank)

/-- The text does not go on with the word before it, and what comes next is none of the marks. -/
def Stops (marks : List Char) (rest : Text) : Prop :=
  Avoids Grammar.isWordPart rest ∧ NextAvoids marks rest

structure Identifier where
  text : Text
  nonempty : text ≠ []
  word : Grammar.wordAt text = text
  free : String.ofList text ∉ Grammar.primitiveTypes

structure TagShaped (text : Text) (node : Node) : Prop where
  kind : node.kind ∈ annotationKinds
  text : node.label.text = text

/-- An annotation: a mark and behind it what the rule for annotations reads, where neither arguments
nor a further part of a name follow. -/
structure Mark where
  body : Text
  accepted : ∀ᶠ depth in Filter.atTop, ∀ rest, Stops ['/', '(', '.'] rest →
    Accepts Grammar.style (Syntax.Parser.run grammar depth .tag) ('@' :: body) rest
      (Single (TagShaped ('@' :: body)))

def Mark.text (mark : Mark) : Text := '@' :: mark.body

inductive BasicType where
  | byte | short | int | long | char | float | double | boolean | void

inductive BoundKind where
  | extends | super

mutual

inductive TypeExpression where
  | basic (type : BasicType)
  | named (type : ClassType)
  /-- An array, with the annotations before its brackets. -/
  | array (element : TypeExpression) (marks : List Mark)
  | annotated (mark : Mark) (type : TypeExpression)

inductive ClassType where
  | simple (name : Identifier) (arguments : Option (List Argument))
  | member (outer : ClassType) (marks : List Mark) (name : Identifier)
      (arguments : Option (List Argument))

inductive Argument where
  | exact (type : TypeExpression)
  | wildcard (marks : List Mark)
  | bounded (marks : List Mark) (kind : BoundKind) (bound : TypeExpression)

end

end Expressions

section Names

def BasicType.keyword : BasicType → String
  | .byte => "byte"
  | .short => "short"
  | .int => "int"
  | .long => "long"
  | .char => "char"
  | .float => "float"
  | .double => "double"
  | .boolean => "boolean"
  | .void => "void"

def ClassType.lastName : ClassType → Identifier
  | .simple name _ => name
  | .member _ _ name _ => name

/-- The keyword of the innermost element type, or the last name of its class. -/
def TypeExpression.simpleName : TypeExpression → String
  | .basic type => type.keyword
  | .named type => String.ofList type.lastName.text
  | .array element _ => element.simpleName
  | .annotated _ type => type.simpleName

end Names

section Shapes

def BasicType.kind : BasicType → String
  | .void => "void_type"
  | .boolean => "boolean_type"
  | .float | .double => "floating_point_type"
  | .byte | .short | .int | .long | .char => "integral_type"

structure IsNode (kind : String) (node : Node) : Prop where
  kind : node.kind = kind
  named : node.label.isNamed = true

theorem covers_node {kind : String} {text : Text} {node : Node} (covers : Covers kind true text node) :
    IsNode kind node :=
  ⟨covers.kind, covers.named⟩

def WithDimensions (shape : Node → Prop) : List (List Mark) → Node → Prop
  | [], node => shape node
  | _ :: _, node => IsNode "array_type" node ∧ ∃ element dimensions,
      node.children = [element, dimensions] ∧ element.hasField "element" = true ∧ shape element ∧
        IsNode "dimensions" dimensions

def TagsShaped (marks : List Mark) (tags : List Node) : Prop :=
  List.Forall₂ (fun mark => TagShaped mark.text) marks tags

def WithMarks (shape : Node → Prop) : List Mark → Node → Prop
  | [], node => shape node
  | mark :: marks, node => IsNode "annotated_type" node ∧ ∃ tags type,
      node.children = tags ++ [type] ∧ TagsShaped (mark :: marks) tags ∧ shape type

def MemberShaped (outer : Node → Prop) (marks : List Mark) (name : Identifier) (node : Node) : Prop :=
  IsNode "scoped_type_identifier" node ∧ ∃ qualifier dot tags last,
    node.children = qualifier :: dot :: (tags ++ [last]) ∧ outer qualifier ∧ dot.kind = "." ∧
      TagsShaped marks tags ∧ Covers "type_identifier" true name.text last

mutual

/-- The node of a type with these annotations before it and these dimensions behind it. -/
def TypeExpression.ShapedWith : TypeExpression → List Mark → List (List Mark) → Node → Prop
  | .basic type, marks, dimensions =>
      WithMarks (WithDimensions (Covers type.kind true type.keyword.toList) dimensions) marks
  | .named type, marks, dimensions => WithMarks (WithDimensions type.Shaped dimensions) marks
  | .array element own, marks, dimensions => element.ShapedWith marks (own :: dimensions)
  | .annotated mark type, marks, dimensions => type.ShapedWith (marks ++ [mark]) dimensions

def ClassType.Shaped : ClassType → Node → Prop
  | .simple name arguments => appliedShape (Covers "type_identifier" true name.text) arguments
  | .member outer marks name arguments =>
      appliedShape (MemberShaped outer.Shaped marks name) arguments

def appliedShape (name : Node → Prop) : Option (List Argument) → Node → Prop
  | none, node => name node
  | some arguments, node => IsNode "generic_type" node ∧ ∃ base list,
      node.children = [base, list] ∧ name base ∧ IsNode "type_arguments" list ∧
        argumentsShaped arguments list.namedChildren

def argumentsShaped : List Argument → List Node → Prop
  | [], nodes => nodes = []
  | argument :: rest, nodes => ∃ node others, nodes = node :: others ∧ argument.Shaped node ∧
      argumentsShaped rest others

def Argument.Shaped : Argument → Node → Prop
  | .exact type, node => type.ShapedWith [] [] node
  | .wildcard _, node => IsNode "wildcard" node
  | .bounded _ _ bound, node => IsNode "wildcard" node ∧ ∃ front last,
      node.children = front ++ [last] ∧ bound.ShapedWith [] [] last

end

def TypeExpression.Shaped (type : TypeExpression) (node : Node) : Prop := type.ShapedWith [] [] node

end Shapes

section Reduction

variable {node : Node} {shape outer : Node → Prop} {called : String}

/-- Nodes of that shape are types by the name. -/
def Denotes (shape : Node → Prop) (called : String) : Prop :=
  ∀ node, shape node → typeName node = called ∧ node.label.isNamed = true ∧
    node.kind ∉ annotationKinds

theorem type_name_child {child : Node} (source : nameSource node = some child) :
    typeName node = typeName child := by
  rw [type_name_source, source]
  rfl

theorem basic_denotes (type : BasicType) :
    Denotes (Covers type.kind true type.keyword.toList) type.keyword := by
  intro node covers
  have written : node.text = type.keyword := by rw [Node.text, covers.text, String.ofList_toList]
  refine ⟨?_, covers.named, ?_⟩
  · cases node
    cases type <;>
      simp only [typeName, nameFromParts, covers.kind, BasicType.kind, written, BasicType.keyword]
  · rw [covers.kind]
    cases type <;> simp [BasicType.kind, annotationKinds]

theorem identifier_denotes (name : Text) :
    Denotes (Covers "type_identifier" true name) (String.ofList name) := by
  intro node covers
  refine ⟨?_, covers.named, by rw [covers.kind]; simp [annotationKinds]⟩
  rw [type_name_identifier covers.kind, Node.text, covers.text]

-- The last name is the last identifier among the parts, whatever the qualifier is.
theorem member_denotes (outer : Node → Prop) (marks : List Mark) (name : Identifier) :
    Denotes (MemberShaped outer marks name) (String.ofList name.text) := by
  rintro node ⟨qualified, qualifier, dot, tags, last, parts, -, -, -, covers⟩
  have source : nameSource node = some last := by
    have kept : [last].filter (·.kind == "type_identifier") = [last] := by simp [covers.kind]
    simp only [nameSource, qualified.kind, parts]
    rw [← List.cons_append, ← List.cons_append, List.filter_append, kept, List.getLast?_concat]
  refine ⟨?_, qualified.named, by rw [qualified.kind]; simp [annotationKinds]⟩
  rw [type_name_child source, (identifier_denotes name.text last covers).1]

theorem applied_denotes (denotes : Denotes shape called)
    (base : ∀ node, shape node → node.kind ∈ ["type_identifier", "scoped_type_identifier"])
    (arguments : Option (List Argument)) : Denotes (appliedShape shape arguments) called := by
  intro node shaped
  cases arguments with
  | none => exact denotes node (by simpa only [appliedShape] using shaped)
  | some arguments =>
      simp only [appliedShape] at shaped
      obtain ⟨generic, inner, list, parts, named, -⟩ := shaped
      have source : nameSource node = some inner := by
        simp only [nameSource, generic.kind, Node.childOf?, parts]
        exact List.find?_cons_of_pos (by simpa using base inner named)
      refine ⟨?_, generic.named, by rw [generic.kind]; simp [annotationKinds]⟩
      rw [type_name_child source, (denotes inner named).1]

theorem class_denotes (type : ClassType) :
    Denotes type.Shaped (String.ofList type.lastName.text) := by
  cases type with
  | simple name arguments =>
      rw [ClassType.Shaped]
      refine applied_denotes (identifier_denotes name.text) (fun node covers => ?_) arguments
      simp [covers.kind]
  | member outer marks name arguments =>
      rw [ClassType.Shaped]
      refine applied_denotes (member_denotes outer.Shaped marks name) (fun node shaped => ?_) arguments
      simp [shaped.1.kind]

theorem dimensions_denote (denotes : Denotes shape called) (dimensions : List (List Mark)) :
    Denotes (WithDimensions shape dimensions) called := by
  intro node shaped
  cases dimensions with
  | nil => exact denotes node shaped
  | cons first others =>
      obtain ⟨array, element, suffix, parts, role, inner, -⟩ := shaped
      have source : nameSource node = some element := by
        simp only [nameSource, array.kind, Node.field?, parts]
        exact List.find?_cons_of_pos role
      refine ⟨?_, array.named, by rw [array.kind]; simp [annotationKinds]⟩
      rw [type_name_child source, (denotes element inner).1]

theorem marks_denote (denotes : Denotes shape called) (marks : List Mark) :
    Denotes (WithMarks shape marks) called := by
  intro node shaped
  cases marks with
  | nil => exact denotes node shaped
  | cons first others =>
      obtain ⟨annotated, tags, type, parts, -, inner⟩ := shaped
      obtain ⟨name, named, noTag⟩ := denotes type inner
      have source : nameSource node = some type := by
        simp only [nameSource, annotated.kind, annotatedNode, parts]
        rw [List.filter_append, List.filter_cons_of_pos (by simp [named, noTag]), List.filter_nil,
          List.getLast?_concat]
      refine ⟨?_, annotated.named, by rw [annotated.kind]; simp [annotationKinds]⟩
      rw [type_name_child source, name]

-- Annotations and dimensions gather on the way to the innermost type, which has the name.
theorem type_denotes : ∀ (type : TypeExpression) (marks : List Mark) (dimensions : List (List Mark)),
    Denotes (type.ShapedWith marks dimensions) type.simpleName
  | .basic type, marks, dimensions => by
      rw [TypeExpression.ShapedWith]
      exact marks_denote (dimensions_denote (basic_denotes type) dimensions) marks
  | .named type, marks, dimensions => by
      rw [TypeExpression.ShapedWith]
      exact marks_denote (dimensions_denote (class_denotes type) dimensions) marks
  | .array element own, marks, dimensions => by
      rw [TypeExpression.ShapedWith]
      exact type_denotes element marks (own :: dimensions)
  | .annotated mark type, marks, dimensions => by
      rw [TypeExpression.ShapedWith]
      exact type_denotes type (marks ++ [mark]) dimensions

end Reduction

end PatternInspector.Java
