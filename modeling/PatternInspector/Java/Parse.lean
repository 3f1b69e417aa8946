import PatternInspector.Java.Extract
import PatternInspector.Java.Grammar.Declaration

/-!
Syntax trees of Java source text, and the reports on it.
-/
namespace PatternInspector.Java

open PatternInspector.Syntax (Node Fault Parser Tree)

def grammar (rules : Grammar.Rule → Parser) : Grammar.Rule → Parser
  | .program => Grammar.program rules
  | .statement => Grammar.statement rules
  | .block => Grammar.block rules
  | .expression => Grammar.expression rules
  | .binary level => Grammar.binary rules level
  | .unary => Grammar.unary rules
  | .type => Grammar.type rules
  | .plainType => Grammar.plainType rules
  | .tag => Grammar.tag rules
  | .elementValue => Grammar.elementValue rules
  | .variableInitializer => Grammar.variableInitializer rules
  | .classBody => Grammar.classBody rules
  | .declaration => Grammar.declaration rules
  | .recordPattern => Grammar.recordPattern rules
  | .switchBlock => Grammar.switchBlock rules

def parse (code : Text) : Except Fault Node :=
  (Tree.ofParse (Parser.parseAll grammar .program Grammar.style code)).check

def validate (rules : Rules) (code : Text) (filename : String) : Report :=
  reportOnTree rules filename (parse code)

end PatternInspector.Java
