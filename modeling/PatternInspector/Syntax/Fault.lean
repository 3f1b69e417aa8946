import PatternInspector.Syntax.Node

/-!
What is reported of a text that has no syntax tree without faults.
-/
namespace PatternInspector.Syntax

/-- A message with the place it is about, if one is known. -/
structure Fault where
  message : String
  line : Option Nat := none
  column : Option Nat := none
  deriving DecidableEq

def Fault.somewhere : Fault := { message := "Syntax error" }

def snippetLength : Nat := 40

def place (node : Node) : String :=
  "at line " ++ toString node.line ++ ", column " ++ toString node.column

/-- The start of the first line of a faulty text, empty for a text of white space. -/
def near (text : Text) : String :=
  match Text.strip text with
  | [] => ""
  | stripped =>
      " near '" ++ String.ofList ((Text.firstLine stripped).take snippetLength) ++ "'"

def faultOf? (node : Node) : Option Fault :=
  let fault (message : String) : Fault := { message, line := node.line, column := node.column }
  if node.label.isMissing then
    some (fault ("Missing '" ++ node.kind ++ "' " ++ place node))
  else if node.label.isError then
    some (fault ("Syntax error " ++ place node ++ near node.label.text))
  else none

def firstFault (root : Node) : Fault := (root.walk.findSome? faultOf?).getD .somewhere

/-- A tree, and whether the text it was read from had faults. -/
structure Tree where
  root : Node
  hasError : Bool := false

/-- The tree that a parser found; if it found none, all that is known is that there are faults. -/
def Tree.ofParse : Option Node → Tree
  | some root => { root }
  | none => { root := default, hasError := true }

def Tree.check (tree : Tree) : Except Fault Node :=
  if tree.hasError then .error (firstFault tree.root) else .ok tree.root

end PatternInspector.Syntax
