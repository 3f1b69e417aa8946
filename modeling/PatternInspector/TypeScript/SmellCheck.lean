import PatternInspector.TypeScript.Declared
import PatternInspector.TypeScript.Rules
import PatternInspector.TypeScript.Violation

/-!
Code smells: variables that nothing uses, lines that occur again and again, and code without
comments.
-/
namespace PatternInspector.TypeScript

open PatternInspector.Syntax (Node)
open PatternInspector.Syntax.Node (Visit)

section UnusedVariables

structure Declaration where
  name : Text
  line : Nat
  column : Nat
  deriving DecidableEq

/-- Adds a declaration; one of a known name takes that name's place in the order. -/
def declare (declaration : Declaration) : List Declaration → List Declaration
  | [] => [declaration]
  | known :: rest =>
      if known.name = declaration.name then declaration :: rest
      else known :: declare declaration rest

def isVariableDeclaration (node : Node) : Bool :=
  ["lexical_declaration", "variable_declaration"].contains node.kind

def declarationOf? (declarator : Node) : Option Declaration :=
  (declaredName? declarator).map fun name => ⟨name, declarator.line, declarator.column⟩

/-- All declarations of a tree in the order of the walk. -/
def declarationSites (root : Node) : List Declaration :=
  (root.walk.filter isVariableDeclaration).flatMap fun node =>
    (declarators node).filterMap declarationOf?

/-- The declared names, each once, in the order of their first declarations. -/
def declarations (root : Node) : List Declaration :=
  (declarationSites root).foldl (fun known declaration => declare declaration known) []

def isNameUse (visit : Visit) : Bool :=
  ["identifier", "shorthand_property_identifier",
    "shorthand_property_identifier_pattern"].contains visit.node.kind &&
    !visit.isFieldOf "variable_declarator" "name"

/-- Names that occur anywhere but where they are declared. -/
def usedNames (root : Node) : List Text :=
  (root.visits.filter isNameUse).map (·.node.label.text)

def unusedDeclarations (root : Node) : List Declaration :=
  let used := usedNames root
  (declarations root).filter fun declaration => !used.contains declaration.name

def unusedViolation (severity : Severity) (declaration : Declaration) : Violation := {
  rule := "code-smell-unused-variable"
  category := .codeSmells
  severity
  message := "変数'" ++ String.ofList declaration.name ++ "'は宣言されていますが使用されていません"
  line := declaration.line
  column := declaration.column
  suggestion := "この変数を削除するか、コード内で使用してください" }

end UnusedVariables

section Duplication

/-- Lines up to this length may occur as often as they like. -/
def minDuplicateLength : Nat := 20

def minDuplicateOccurrences : Nat := 3

def startsComment (line : Text) : Bool :=
  "//".toList.isPrefixOf line || "/*".toList.isPrefixOf line

def countsForDuplication (line : Text) : Bool :=
  minDuplicateLength < line.length && !startsComment line

/-- A line without its outer blanks, and the numbers of the lines that hold it. -/
structure Occurrence where
  line : Text
  numbers : List Nat

def addOccurrence (line : Text) (number : Nat) : List Occurrence → List Occurrence
  | [] => [⟨line, [number]⟩]
  | known :: rest =>
      if known.line = line then ⟨line, known.numbers ++ [number]⟩ :: rest
      else known :: addOccurrence line number rest

def countedLines (code : Text) : List (Text × Nat) :=
  (((Text.lines code).map Text.strip).zipIdx 1).filter fun numbered =>
    countsForDuplication numbered.1

/-- The lines in order of first occurrence. -/
def occurrences (code : Text) : List Occurrence :=
  (countedLines code).foldl (fun known numbered => addOccurrence numbered.1 numbered.2 known) []

def duplicationViolation? (occurrence : Occurrence) : Option Violation :=
  if occurrence.numbers.length < minDuplicateOccurrences then none
  else some {
    rule := "code-smell-duplication"
    category := .codeSmells
    severity := .info
    message := "重複したコードが" ++ toString occurrence.numbers.length ++ "箇所にあります（行: " ++
      joinWith ", " (occurrence.numbers.map toString) ++ "）"
    line := occurrence.numbers.head?
    suggestion := "再利用可能な関数に抽出することを検討してください"
    evidence := occurrence.numbers.map fun number => "line " ++ toString number }

def checkDuplication (code : Text) : List Violation :=
  (occurrences code).filterMap duplicationViolation?

end Duplication

section Comments

def maxUncommentedLines : Nat := 50

/-- Of this many lines of code, one has to be a comment. -/
def linesPerComment : Nat := 20

def commentLines (code : Text) : Nat :=
  ((Text.lines code).map Text.strip).countP startsComment

/-- Lines that are neither empty nor line comments; block comments count. -/
def codeLines (code : Text) : Nat :=
  ((Text.lines code).map Text.strip).countP fun line =>
    !line.isEmpty && !"//".toList.isPrefixOf line

def checkComments (code : Text) : List Violation :=
  let comments := commentLines code
  let lines := codeLines code
  if lines ≤ maxUncommentedLines || lines ≤ linesPerComment * comments then []
  else [{
    rule := "code-smell-lack-of-comments"
    category := .codeSmells
    severity := .info
    message := "コメントが少なすぎます（コード" ++ toString lines ++ "行に対してコメント" ++
      toString comments ++ "行）"
    suggestion := "複雑なロジックにはコメントを追加してください" }]

end Comments

def checkSmells (rules : CodeSmellRules) (root : Node) (code : Text) : List Violation :=
  (if rules.detectDeadCode then
    (unusedDeclarations root).map (unusedViolation rules.severity)
    else []) ++
  (if rules.detectDuplication then checkDuplication code else []) ++
  checkComments code

end PatternInspector.TypeScript
