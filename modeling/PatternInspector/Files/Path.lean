import PatternInspector.Text.CodePoint

/-!
Slash-separated paths: their parts, the name of the file and its extension.

Empty parts and single dots carry no meaning, so `a//./b` and `a/b` are the same path. Two dots are
kept, because what they mean depends on the files.
-/
namespace PatternInspector

abbrev FilePath := CodePoints

namespace Path

section Parts

def slash : CodePoint := .char '/'

def dot : CodePoint := .char '.'

def isAbsolute (path : FilePath) : Bool := path.head? == some slash

def parts (path : FilePath) : List CodePoints :=
  (path.splitOn slash).filter fun part => part != [] && part != [dot]

/-- The marks that a path starts at the top: one slash, or two where exactly two were written. -/
def rootMark (path : FilePath) : FilePath :=
  match path.takeWhile (· == slash) with
  | [] => []
  | [first, second] => [first, second]
  | first :: _ => [first]

/-- The path with its meaningless parts removed; a path without parts is a single dot. -/
def normalized (path : FilePath) : FilePath :=
  let joined := rootMark path ++ [slash].intercalate (parts path)
  if joined.isEmpty then [dot] else joined

end Parts

section Names

/-- The last part, empty if there is none. -/
def fileName (path : FilePath) : CodePoints := (parts path).getLast?.getD []

/-- How much of a name stands before its last dot, if that dot neither starts nor ends it. -/
def extensionStart? (name : CodePoints) : Option Nat :=
  let tail := name.reverse.takeWhile (· != dot)
  let start := name.length - tail.length - 1
  if name.contains dot && 0 < start && tail != [] then some start else none

def stem (path : FilePath) : CodePoints :=
  let name := fileName path
  match extensionStart? name with
  | some start => name.take start
  | none => name

def extension (path : FilePath) : CodePoints :=
  let name := fileName path
  match extensionStart? name with
  | some start => name.drop start
  | none => []

end Names

end Path

end PatternInspector
