import PatternInspector.TypeScript.Grammar.Declaration
import PatternInspector.TypeScript.Grammar.Markup

/-!
Syntax trees of TypeScript source text, and the reports on it.
-/
namespace PatternInspector.TypeScript

open PatternInspector.Syntax (Node Fault Parser Tree)

def grammar (dialect : Dialect) (rules : Grammar.Rules) : Grammar.Rules
  | .program => Grammar.program rules
  | .statement => Grammar.statement rules
  | .block => Grammar.block rules
  | .declaration => Grammar.declaration rules
  | .expressions => Grammar.expressions rules
  | .expression => Grammar.expression rules
  | .binary level => Grammar.binary rules level
  | .unary => Grammar.unary dialect rules
  | .member => Grammar.member dialect rules
  | .pattern => Grammar.pattern rules
  | .type => Grammar.type rules
  | .primaryType => Grammar.primaryType rules
  | .objectType => Grammar.objectType rules
  | .formalParameters => Grammar.formalParameters rules
  | .classBody => Grammar.classBody rules
  | .arguments => Grammar.arguments rules
  | .element => Grammar.element rules

def parse (dialect : Dialect) (code : Text) : Except Fault Node :=
  (Tree.ofParse (Parser.parseAll (grammar dialect) .program Grammar.style code)).check

/-- The report on a source text, in the dialect that its filename calls for. -/
def validate (rules : Rules) (code : Text) (filename : String) : Report :=
  reportOnTree rules filename code (parse (dialectOf filename) code)

end PatternInspector.TypeScript
