import PatternInspector.Files.Path

/-!
A tree of files, and where a path leads in it.

A path is followed from part to part: every part but the last has to be a directory, also before two
dots. What lies outside the tree is given beside it; by default there are directories without files.
-/
namespace PatternInspector.Files

section Faults

inductive Content where
  | file (bytes : List UInt8)
  /-- A file that may not be opened. -/
  | locked
  | directory
  deriving DecidableEq

inductive AccessFault where
  | notFound
  | notADirectory
  | permissionDenied
  | isADirectory
  | nameTooLong
  deriving DecidableEq

/-- The number and the text by which the system reports the fault. -/
def AccessFault.message : AccessFault → String
  | .notFound => "[Errno 2] No such file or directory"
  | .permissionDenied => "[Errno 13] Permission denied"
  | .notADirectory => "[Errno 20] Not a directory"
  | .isADirectory => "[Errno 21] Is a directory"
  | .nameTooLong => "[Errno 36] File name too long"

def maxNameBytes : Nat := 255

def maxPathBytes : Nat := 4095

def followEmpty : List CodePoints → Except AccessFault Content
  | [] => .ok .directory
  | part :: rest =>
      if part = ".." then followEmpty rest
      else if maxNameBytes < part.byteSize then .error .nameTooLong
      else .error .notFound

end Faults

section Trees

/-- Files and directories by their parts. Directories that hold something need not be listed. -/
structure Tree where
  entries : List (List CodePoints × Content) := []
  /-- Where parts lead from the directory above the tree. -/
  above : List CodePoints → Except AccessFault Content := followEmpty
  /-- Where the parts of an absolute path lead. -/
  top : List CodePoints → Except AccessFault Content := followEmpty

namespace Tree

def lookup (parts : List CodePoints) : List (List CodePoints × Content) → Option Content
  | [] => none
  | (path, content) :: rest => if path = parts then some content else lookup parts rest

def find? (tree : Tree) (parts : List CodePoints) : Option Content :=
  if parts = [] then some .directory
  else
    match lookup parts tree.entries with
    | some content => some content
    | none =>
        if tree.entries.any fun entry => parts.isPrefixOf entry.1 then some .directory else none

def erase (tree : Tree) (parts : List CodePoints) : Tree :=
  { tree with entries := tree.entries.filter fun entry => !parts.isPrefixOf entry.1 }

def parents (parts : List CodePoints) : List (List CodePoints) :=
  (List.range (parts.length - 1)).map fun n => parts.take (n + 1)

/-- The tree with new content at these parts; no content removes what was there. -/
def put (tree : Tree) (path : FilePath) (content : Option Content) : Tree :=
  let parts := Path.parts path
  let cleared := tree.erase parts
  let kept := ((parents parts).filter fun parent => (lookup parent cleared.entries).isNone).map
    fun parent => (parent, Content.directory)
  { cleared with
    entries := cleared.entries ++ kept ++ (content.toList.map fun found => (parts, found)) }

end Tree

end Trees

section Access

def Tree.follow (tree : Tree) (here : List CodePoints) : List CodePoints → Except AccessFault Content
  | [] => .ok .directory
  | part :: rest =>
      if part = ".." then
        if here = [] then tree.above rest else tree.follow here.dropLast rest
      else if maxNameBytes < part.byteSize then .error .nameTooLong
      else
        match tree.find? (here ++ [part]) with
        | none => .error .notFound
        | some (.file bytes) => if rest = [] then .ok (.file bytes) else .error .notADirectory
        | some .locked => if rest = [] then .ok .locked else .error .notADirectory
        | some .directory => tree.follow (here ++ [part]) rest

def Tree.resolve (tree : Tree) (path : FilePath) : Except AccessFault Content :=
  if maxPathBytes < (Path.normalized path).byteSize then .error .nameTooLong
  else if Path.isAbsolute path then tree.top (Path.parts path)
  else tree.follow [] (Path.parts path)

def Tree.has (tree : Tree) (path : FilePath) : Bool :=
  match tree.resolve path with
  | .ok _ => true
  | .error _ => false

def Tree.bytes (tree : Tree) (path : FilePath) : Except AccessFault (List UInt8) := do
  match ← tree.resolve path with
  | .file bytes => return bytes
  | .locked => throw .permissionDenied
  | .directory => throw .isADirectory

end Access

end PatternInspector.Files
