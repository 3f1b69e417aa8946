import PatternInspector.Syntax.Node

/-!
Parsers that build syntax trees.

A parser either fails or gives the nodes that it read, in order, together with the input that is
left. Comments are nodes too: those in front of a token come before it, and those in front of a
whole node come before that node. Alternatives are tried in order and the first that succeeds
counts. A grammar is a family of parsers that may refer to each other; it is run with a limit on
how deep these references nest, which the length of a text bounds.
-/
namespace PatternInspector.Syntax

section Inputs

structure Style where
  isBlank : Char → Bool
  /-- Whether a character ends a line comment. -/
  endsLine : Char → Bool
  lineComment : String
  blockComment : String

structure Mode where
  /-- A statement may end here without a semicolon. -/
  mayEnd : Bool := true
  /-- An arrow or a result type that follows parameters makes them a function; where this is off, it
  belongs to the surroundings. -/
  arrows : Bool := true

structure Input where
  rest : Text
  offset : Nat := 0
  point : Point := {}
  mode : Mode := {}
  style : Style

namespace Input

def pointAfter (point : Point) (c : Char) : Point :=
  if c == '\n' then ⟨point.row + 1, 0⟩ else ⟨point.row, point.column + c.utf8Size⟩

def advance : Nat → Input → Input
  | 0, input => input
  | n + 1, input =>
      match input.rest with
      | [] => input
      | c :: rest =>
          advance n
            { input with rest, offset := input.offset + 1, point := pointAfter input.point c }

def textTo (start stop : Input) : Text := start.rest.take (stop.offset - start.offset)

end Input

def mkNode (kind : String) (isNamed : Bool) (start stop : Input) (children : List Node) : Node :=
  .mk { kind, isNamed, start := start.point, stop := stop.point, text := start.textTo stop } children

end Inputs

section Trivia

/-- Length of a block comment behind its opening mark, if it is closed. -/
def blockCommentLength? : Text → Option Nat
  | '*' :: '/' :: _ => some 2
  | _ :: rest => (blockCommentLength? rest).map (· + 1)
  | [] => none

/-- Length of the comment at the start of a text, and whether it is a block. -/
def commentLength? (style : Style) : Text → Option (Nat × Bool)
  | '/' :: '/' :: rest => some ((rest.takeWhile fun c => !style.endsLine c).length + 2, false)
  | '/' :: '*' :: rest => (blockCommentLength? rest).map fun n => (n + 2, true)
  | _ => none

def skipTriviaFrom : Nat → Input → List Node × Input
  | 0, input => ([], input)
  | limit + 1, input =>
      match input.rest with
      | [] => ([], input)
      | c :: _ =>
          if input.style.isBlank c then skipTriviaFrom limit (input.advance 1)
          else match commentLength? input.style input.rest with
            | none => ([], input)
            | some (length, isBlock) =>
                let stop := input.advance length
                let kind :=
                  if isBlock then input.style.blockComment else input.style.lineComment
                let (comments, next) := skipTriviaFrom limit stop
                (mkNode kind true input stop [] :: comments, next)

/-- The comments in front of the next token, and the input from that token on. -/
def skipTrivia (input : Input) : List Node × Input := skipTriviaFrom input.rest.length input

/-- Whether a line ends between here and the next token, outside of block comments. -/
def newlineFrom : Nat → Input → Bool
  | 0, _ => false
  | limit + 1, input =>
      match input.rest with
      | [] => false
      | c :: _ =>
          if c == '\n' then true
          else if input.style.isBlank c then newlineFrom limit (input.advance 1)
          else match commentLength? input.style input.rest with
            | none => false
            | some (length, _) => newlineFrom limit (input.advance length)

def newlineAhead (input : Input) : Bool := newlineFrom input.rest.length input

end Trivia

abbrev Parser := Input → Option (List Node × Input)

namespace Parser

section Composition

def fail : Parser := fun _ => none

def done : Parser := fun input => some ([], input)

def both (first second : Parser) : Parser := fun input =>
  match first input with
  | none => none
  | some (nodes, next) =>
      match second next with
      | none => none
      | some (more, rest) => some (nodes ++ more, rest)

def seq : List Parser → Parser
  | [] => done
  | [parser] => parser
  | parser :: others => both parser (seq others)

def choice : List Parser → Parser
  | [] => fail
  | parser :: others => fun input =>
      match parser input with
      | some result => some result
      | none => choice others input

def opt (parser : Parser) : Parser := choice [parser, done]

def manyFrom (parser : Parser) : Nat → Parser
  | 0 => done
  | limit + 1 => fun input =>
      match parser input with
      | none => some ([], input)
      | some (nodes, next) =>
          if next.offset ≤ input.offset then some ([], input)
          else match manyFrom parser limit next with
            | none => none
            | some (more, rest) => some (nodes ++ more, rest)

/-- A parser as often as it succeeds and reads on. -/
def many (parser : Parser) : Parser := fun input => manyFrom parser input.rest.length input

def many1 (parser : Parser) : Parser := both parser (many parser)

def sepBy1 (separator item : Parser) : Parser := both item (many (both separator item))

def sepBy (separator item : Parser) : Parser := opt (sepBy1 separator item)

end Composition

section Conditions

/-- Succeeds without reading if the text at the next token passes a test. -/
def ahead (test : Text → Bool) : Parser := fun input =>
  if test (skipTrivia input).2.rest then some ([], input) else none

/-- Succeeds without reading if the parser fails. -/
def absent (parser : Parser) : Parser := fun input =>
  match parser input with
  | none => some ([], input)
  | some _ => none

/-- Succeeds without reading if the parser succeeds. -/
def present (parser : Parser) : Parser := fun input => (parser input).map fun _ => ([], input)

/-- Succeeds without reading if no line ends before the next token, or if a statement may not end
here. -/
def sameLine : Parser := fun input =>
  if input.mode.mayEnd && newlineAhead input then none else some ([], input)

def under (mode : Mode → Mode) (parser : Parser) : Parser := fun input =>
  (parser { input with mode := mode input.mode }).map fun result =>
    (result.1, { result.2 with mode := input.mode })

/-- Within brackets no statement ends. -/
def bracketed (parser : Parser) : Parser :=
  under (fun _ => { mayEnd := false, arrows := true }) parser

/-- Within a block statements may end at the ends of lines. -/
def inBlock (parser : Parser) : Parser :=
  under (fun _ => { mayEnd := true, arrows := true }) parser

end Conditions

section Nodes

def node (kind : String) (parser : Parser) : Parser := fun input =>
  let (comments, start) := skipTrivia input
  match parser start with
  | none => none
  | some (children, stop) => some (comments ++ [mkNode kind true start stop children], stop)

def headed (head : Parser) (tails : List (String × Parser)) : Parser := fun input =>
  let (comments, start) := skipTrivia input
  match head start with
  | none => none
  | some (nodes, middle) =>
      tails.findSome? fun tail =>
        (tail.2 middle).map fun result =>
          (comments ++ [mkNode tail.1 true start result.2 (nodes ++ result.1)], result.2)

def isComment (style : Style) (node : Node) : Bool :=
  node.kind == style.lineComment || node.kind == style.blockComment

def withField (style : Style) (name : String) (node : Node) : Node :=
  match node with
  | .mk label children =>
      if isComment style node then node else .mk { label with field := some name } children

def field (name : String) (parser : Parser) : Parser := fun input =>
  (parser input).map fun result => (result.1.map (withField input.style name), result.2)

def leaf (kind : String) (isNamed : Bool) (length? : Text → Option Nat) : Parser := fun input =>
  let (comments, start) := skipTrivia input
  match length? start.rest with
  | none => none
  | some length =>
      let stop := start.advance length
      some (comments ++ [mkNode kind isNamed start stop []], stop)

/-- A leaf that has to stand here, without blanks or comments before it. -/
def adjacent (kind : String) (isNamed : Bool) (length? : Text → Option Nat) : Parser := fun input =>
  match length? input.rest with
  | none => none
  | some length =>
      let stop := input.advance length
      some ([mkNode kind isNamed input stop []], stop)

def lengthIfStarts (mark : String) (text : Text) : Option Nat :=
  if mark.toList.isPrefixOf text then some mark.length else none

def mark (text : String) : Parser := leaf text false (lengthIfStarts text)

def markNot (text : String) (followers : List String) : Parser :=
  leaf text false fun rest =>
    match lengthIfStarts text rest with
    | none => none
    | some length =>
        if followers.any fun follower => follower.toList.isPrefixOf (rest.drop length) then none
        else some length

def adjacentMark (text : String) : Parser := adjacent text false (lengthIfStarts text)

end Nodes

section Growth

/-- A way to make a larger node from one that was read: the kind of the whole, the role of the node
in it, and what follows the node. Some suffixes extend only nodes of certain kinds. -/
structure Suffix where
  kind : String
  role : Option String
  parser : Parser
  only : Option (List String) := none

def Suffix.extends? (suffix : Suffix) (nodes : List Node) : Bool :=
  match suffix.only with
  | none => true
  | some kinds => nodes.getLast?.any fun node => kinds.contains node.kind

def firstSuffix (suffixes : List Suffix) (nodes : List Node) (input : Input) :
    Option (Suffix × List Node × Input) :=
  suffixes.findSome? fun suffix =>
    if suffix.extends? nodes then
      (suffix.parser input).map fun result => (suffix, result.1, result.2)
    else none

def growFrom (suffixes : List Suffix) (start : Input) :
    Nat → List Node → Input → List Node × Input
  | 0, nodes, stop => (nodes, stop)
  | limit + 1, nodes, stop =>
      match firstSuffix suffixes nodes stop with
      | none => (nodes, stop)
      | some (suffix, more, next) =>
          if next.offset ≤ stop.offset then (nodes, stop)
          else
            let first := match suffix.role with
              | none => nodes
              | some role => nodes.map (withField start.style role)
            growFrom suffixes start limit
              [mkNode suffix.kind true start next (first ++ more)] next

/-- Reads a node and then extends it as long as a suffix follows. -/
def grow (suffixes : List Suffix) (parser : Parser) : Parser := fun input =>
  let (comments, start) := skipTrivia input
  match parser start with
  | none => none
  | some (nodes, stop) =>
      let (grown, rest) := growFrom suffixes start start.rest.length nodes stop
      some (comments ++ grown, rest)

/-- Extends a node at most once. -/
def growOnce (suffixes : List Suffix) (parser : Parser) : Parser := fun input =>
  let (comments, start) := skipTrivia input
  match parser start with
  | none => none
  | some (nodes, stop) =>
      let (grown, rest) := growFrom suffixes start 1 nodes stop
      some (comments ++ grown, rest)

def ofKind (kinds : List String) (parser : Parser) : Parser := fun input =>
  match parser input with
  | none => none
  | some (nodes, rest) =>
      match nodes.getLast? with
      | none => none
      | some last => if kinds.contains last.kind then some (nodes, rest) else none

end Growth

section Running

/-- Runs the rules of a grammar, which may refer to each other to the given depth. -/
def run {Rule : Type} (grammar : (Rule → Parser) → Rule → Parser) : Nat → Rule → Parser
  | 0, _ => fail
  | depth + 1, rule => grammar (run grammar depth) rule

/-- References that a grammar may follow at one place of a text. -/
def depthPerCharacter : Nat := 64

/-- The tree of a whole text, if the rule reads all of it. -/
def parseAll {Rule : Type} (grammar : (Rule → Parser) → Rule → Parser) (start : Rule)
    (style : Style) (text : Text) : Option Node :=
  let body := if text.head? == some '\uFEFF' then 1 else 0
  let input := Input.advance body { rest := text, style }
  match run grammar (depthPerCharacter * (text.length + 1)) start input with
  | none => none
  | some (nodes, rest) =>
      let (comments, stop) := skipTrivia rest
      if stop.rest.isEmpty then
        nodes.getLast?.map fun
          | .mk label children => .mk label (nodes.dropLast ++ children ++ comments)
      else none

end Running

end Parser

end PatternInspector.Syntax
