import PatternInspector.Value.Basic

/-!
Classes as the detection rules see them: names, modifiers and signatures, without bodies. Nested
classes stand in the same list as their outer ones and name them.
-/
namespace PatternInspector.Java

structure Parameter where
  name : String
  type : String
  deriving DecidableEq

/-- A method, or a constructor if it has no return type. -/
structure Method where
  name : String
  isAbstract : Bool := false
  isStatic : Bool := false
  isPrivate : Bool := false
  isPublic : Bool := false
  returnType : Option String := none
  parameters : List Parameter := []
  annotations : List String := []
  line : Option Int := none
  deriving DecidableEq

def Method.isConstructor (method : Method) : Bool := method.returnType.isNone

structure Field where
  name : String
  type : String
  isStatic : Bool := false
  isFinal : Bool := false
  isPrivate : Bool := false
  /-- Keywords and names of annotations. -/
  modifiers : List String := []
  deriving DecidableEq

structure ClassModel where
  name : String
  isInterface : Bool := false
  isAbstract : Bool := false
  methods : List Method := []
  fields : List Field := []
  implements : List String := []
  extends' : Option String := none
  annotations : List String := []
  modifiers : List String := []
  outerName : Option String := none
  line : Option Int := none
  deriving DecidableEq

section Encoding

def Parameter.toValue (parameter : Parameter) : Value := .object [
  ("name", .string parameter.name),
  ("type", .string parameter.type)]

def Method.toValue (method : Method) : Value := .object [
  ("name", .string method.name),
  ("is_abstract", .bool method.isAbstract),
  ("is_static", .bool method.isStatic),
  ("is_private", .bool method.isPrivate),
  ("is_public", .bool method.isPublic),
  ("return_type", .optional .string method.returnType),
  ("parameters", .items (method.parameters.map Parameter.toValue)),
  ("annotations", .strings method.annotations),
  ("line", .optional .int method.line)]

def Field.toValue (field : Field) : Value := .object [
  ("name", .string field.name),
  ("type", .string field.type),
  ("is_static", .bool field.isStatic),
  ("is_final", .bool field.isFinal),
  ("is_private", .bool field.isPrivate),
  ("modifiers", .strings field.modifiers)]

def ClassModel.toValue (cls : ClassModel) : Value := .object [
  ("name", .string cls.name),
  ("is_interface", .bool cls.isInterface),
  ("is_abstract", .bool cls.isAbstract),
  ("methods", .items (cls.methods.map Method.toValue)),
  ("fields", .items (cls.fields.map Field.toValue)),
  ("implements", .strings cls.implements),
  ("extends", .optional .string cls.extends'),
  ("annotations", .strings cls.annotations),
  ("modifiers", .strings cls.modifiers),
  ("outer_name", .optional .string cls.outerName),
  ("line", .optional .int cls.line)]

end Encoding

end PatternInspector.Java
