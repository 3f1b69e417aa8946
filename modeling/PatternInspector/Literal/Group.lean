import PatternInspector.Literal.Trivia

/-!
Bracket groups of script text. The scan keeps the closers of the groups that are open, passes over
trivia, and ends at the bracket that closes the first group. Angle brackets are brackets only in a
group that starts with one, where the `>` of an arrow is none.
-/
namespace PatternInspector.Literal

section Brackets

def closerOf? : Char → Option Char
  | '\x7b' => some '\x7d'
  | '[' => some ']'
  | '(' => some ')'
  | '<' => some '>'
  | _ => none

/-- Whether `c` opens a group inside a group of this kind. -/
def opens (angle : Bool) (c : Char) : Bool :=
  c == '\x7b' || c == '[' || c == '(' || (angle && c == '<')

/-- Whether `c`, standing after `before`, closes a group inside a group of this kind. -/
def closes (angle : Bool) (before c : Char) : Bool :=
  c == '\x7d' || c == ']' || c == ')' || (angle && c == '>' && before != '=')

end Brackets

section Closing

/-- Position of the bracket that closes the last of the open groups. The text starts at `position`
after the character `before`; `skip` counts the characters of trivia still to be passed. -/
def closingFrom (angle : Bool) (open' : List Char) (position : Nat) (before : Char) (skip : Nat) :
    Text → Option Nat
  | [] => none
  | c :: rest =>
      match skip with
      | left + 1 => closingFrom angle open' (position + 1) c left rest
      | 0 =>
          match triviaLength (c :: rest) with
          | length + 1 => closingFrom angle open' (position + 1) c length rest
          | 0 =>
              if opens angle c then
                closingFrom angle ((closerOf? c).toList ++ open') (position + 1) c 0 rest
              else if closes angle before c then
                match open' with
                | [] => none
                | [last] => if c == last then some position else none
                | top :: others =>
                    if c == top then closingFrom angle others (position + 1) c 0 rest else none
              else closingFrom angle open' (position + 1) c 0 rest

/-- Position of the bracket that closes the group opened at `index`; none if another closer comes
first or the text ends. -/
def findClosing (text : Text) (index : Nat) : Except ScanFault (Option Nat) :=
  match text.drop index with
  | [] => .error (.outside index)
  | opener :: rest =>
      match closerOf? opener with
      | none => .error (.notAnOpener opener)
      | some closer => .ok (closingFrom (opener == '<') [closer] (index + 1) opener 0 rest)

/-- A way to find the bracket that closes the group opened at a position. What is built on groups
takes it as an argument, so that it can be watched which groups are asked for. -/
abbrev Closing (m : Type → Type) := Text → Nat → m (Option Nat)

end Closing

end PatternInspector.Literal
