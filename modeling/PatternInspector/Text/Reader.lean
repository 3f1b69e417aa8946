import PatternInspector.Text.Basic

/-!
Patterns in texts, as readers that list every way to read on from a place.

The order of the list is the order of preference, so the first entry is the match that is taken and
membership says which matches there are at all. A search takes the leftmost place where the list is
not empty; a repeated search goes on after the match it found.
-/
namespace PatternInspector.Text

/-- A place in a text: its position, the character just before it, and what follows. -/
structure Cursor where
  position : Nat
  before : Option Char
  rest : Text

def Cursor.start (text : Text) : Cursor := ⟨0, none, text⟩

def Cursor.next : Cursor → Cursor
  | ⟨position, before, []⟩ => ⟨position, before, []⟩
  | ⟨position, _, c :: rest⟩ => ⟨position + 1, some c, rest⟩

/-- All ways to read an `α` from a place, best first. -/
def Reader (α : Type) : Type := Cursor → List (α × Cursor)

namespace Reader

section Composition

variable {α β : Type}

protected def pure (value : α) : Reader α := fun cursor => [(value, cursor)]

protected def bind (first : Reader α) (next : α → Reader β) : Reader β := fun cursor =>
  (first cursor).flatMap fun result => next result.1 result.2

instance : Monad Reader where
  pure := Reader.pure
  bind := Reader.bind

def fail : Reader α := fun _ => []

/-- The first reader's ways, then the second's. -/
def orElse (first second : Reader α) : Reader α := fun cursor => first cursor ++ second cursor

def oneOf : List (Reader α) → Reader α
  | [] => fail
  | reader :: others => orElse reader (oneOf others)

def optional (reader : Reader α) : Reader (Option α) :=
  orElse (do let value ← reader; return some value) (return none)

/-- The text that a reader passes over. -/
def matched (reader : Reader α) : Reader Text := fun cursor =>
  (reader cursor).map fun result =>
    (cursor.rest.take (result.2.position - cursor.position), result.2)

end Composition

section Characters

def char (accepts : Char → Bool) : Reader Char := fun cursor =>
  match cursor.rest with
  | [] => []
  | c :: _ => if accepts c then [(c, cursor.next)] else []

def single (c : Char) : Reader Unit := do
  let _ ← char (· == c)

def chars : Text → Reader Unit
  | [] => return ()
  | c :: rest => do
      single c
      chars rest

def word (s : String) : Reader Unit := chars s.toList

def words (choices : List String) : Reader Unit := oneOf (choices.map word)

def reachable (accepts : Char → Bool) (position : Nat) (before : Option Char) : Text → List Cursor
  | [] => [⟨position, before, []⟩]
  | c :: rest =>
      ⟨position, before, c :: rest⟩ ::
        if accepts c then reachable accepts (position + 1) (some c) rest else []

/-- Passes over accepted characters, as many as possible first. -/
def many (accepts : Char → Bool) : Reader Unit := fun cursor =>
  (reachable accepts cursor.position cursor.before cursor.rest).reverse.map fun place => ((), place)

/-- Passes over accepted characters, as few as possible first. -/
def few (accepts : Char → Bool) : Reader Unit := fun cursor =>
  (reachable accepts cursor.position cursor.before cursor.rest).map fun place => ((), place)

def many1 (accepts : Char → Bool) : Reader Unit := do
  let _ ← char accepts
  many accepts

def blanks : Reader Unit := many isBlank

def blanks1 : Reader Unit := many1 isBlank

/-- An identifier: a letter, underscore or dollar sign, then name characters. -/
def name : Reader Unit := do
  let _ ← char isNameStart
  many isNamePart

/-- Repeats a reader at most `limit` times, as often as possible first. -/
def repeated (reader : Reader Unit) : Nat → Reader Unit
  | 0 => return ()
  | limit + 1 => orElse (do reader; repeated reader limit) (return ())

end Characters

section Conditions

def provided (holds : Cursor → Bool) : Reader Unit := fun cursor =>
  if holds cursor then [((), cursor)] else []

/-- Between a word character and something else, or at an end of the text next to one. -/
def wordEdge : Reader Unit := provided fun cursor =>
  cursor.before.any isWord != cursor.rest.head?.any isWord

def notAfter (rejects : Char → Bool) : Reader Unit := provided fun cursor => !cursor.before.any rejects

def notBefore (rejects : Char → Bool) : Reader Unit := provided fun cursor =>
  !cursor.rest.head?.any rejects

def rejecting {α : Type} (reader : Reader α) : Reader Unit := provided fun cursor =>
  (reader cursor).isEmpty

/-- At the end of the text, or before the newline that ends it. -/
def atEnd : Reader Unit := provided fun cursor => cursor.rest == [] || cursor.rest == ['\n']

end Conditions

section Searching

/-- A match: what was read, and where. -/
structure Found (α : Type) where
  value : α
  start : Nat
  stop : Nat

variable {α : Type}

/-- The preferred way to read at this very place. -/
def first? (reader : Reader α) (cursor : Cursor) : Option (α × Cursor) := (reader cursor).head?

def searchFrom (reader : Reader α) (position : Nat) (before : Option Char) :
    Text → Option (Found α × Cursor)
  | [] => (reader.first? ⟨position, before, []⟩).map fun result =>
      (⟨result.1, position, result.2.position⟩, result.2)
  | c :: rest =>
      match reader.first? ⟨position, before, c :: rest⟩ with
      | some result => some (⟨result.1, position, result.2.position⟩, result.2)
      | none => searchFrom reader (position + 1) (some c) rest

def search (reader : Reader α) (text : Text) : Option (Found α) :=
  (searchFrom reader 0 none text).map (·.1)

def occurs (reader : Reader α) (text : Text) : Bool := (search reader text).isSome

def matchesStart (reader : Reader α) (text : Text) : Bool :=
  (reader.first? (Cursor.start text)).isSome

/-- The matches from a place on, each search starting where the last match ended.
`skip` counts the characters that the last match still covers. -/
def searchAll (reader : Reader α) (position : Nat) (before : Option Char) (skip : Nat) :
    Text → List (Found α)
  | [] => []
  | c :: rest =>
      match skip with
      | left + 1 => searchAll reader (position + 1) (some c) left rest
      | 0 =>
          match reader.first? ⟨position, before, c :: rest⟩ with
          | some result =>
              ⟨result.1, position, result.2.position⟩ ::
                searchAll reader (position + 1) (some c) (result.2.position - position - 1) rest
          | none => searchAll reader (position + 1) (some c) 0 rest

/-- All matches of a reader that never matches the empty text, left to right, none overlapping. -/
def findAll (reader : Reader α) (text : Text) : List (Found α) := searchAll reader 0 none 0 text

def readAt (reader : Reader α) (text : Text) (index : Nat) : Option (Found α) :=
  let before := if index = 0 then none else text[index - 1]?
  (reader.first? ⟨index, before, text.drop index⟩).map fun result =>
    ⟨result.1, index, result.2.position⟩

end Searching

end Reader

end PatternInspector.Text
