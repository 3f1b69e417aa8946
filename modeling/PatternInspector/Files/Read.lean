import PatternInspector.Files.Tree
import PatternInspector.Text.Quoted
import PatternInspector.Text.Utf8

/-!
Reading a file as text, and the words in which a failure is reported.
-/
namespace PatternInspector.Files

section Newlines

def unifyNewlines : Text → Text
  | '\r' :: '\n' :: rest => '\n' :: unifyNewlines rest
  | '\r' :: rest => '\n' :: unifyNewlines rest
  | c :: rest => c :: unifyNewlines rest
  | [] => []

end Newlines

section Reading

inductive PathFault where
  /-- A surrogate that cannot be written in bytes. -/
  | unencodable
  | null
  deriving DecidableEq

inductive ReadFault where
  | path (fault : PathFault)
  | access (fault : AccessFault)
  | decoding (fault : Utf8.Fault)
  deriving DecidableEq

/-- Paths are handed over as bytes that end with a null. -/
def pathFault? (path : FilePath) : Option PathFault :=
  if !path.all CodePoint.isEncodable then some .unencodable
  else if path.contains (.char '\x00') then some .null
  else none

def Tree.readText (tree : Tree) (path : FilePath) : Except ReadFault Text :=
  match pathFault? path with
  | some fault => .error (.path fault)
  | none =>
      match tree.bytes path with
      | .error fault => .error (.access fault)
      | .ok bytes =>
          match Utf8.decode bytes with
          | .error fault => .error (.decoding fault)
          | .ok text => .ok (unifyNewlines text)

end Reading

section Messages

def faultReason : Utf8.FaultKind → String
  | .start => "invalid start byte"
  | .continuation => "invalid continuation byte"
  | .truncated => "unexpected end of data"

def decodingMessage (fault : Utf8.Fault) : String :=
  let place :=
    match fault.bytes with
    | [byte] => "byte 0x" ++ String.ofList (Text.hex 2 byte.toNat) ++ " in position " ++
        toString fault.position
    | bytes => "bytes in position " ++ toString fault.position ++ "-" ++
        toString (fault.position + bytes.length - 1)
  "'utf-8' codec can't decode " ++ place ++ ": " ++ faultReason fault.kind

def accessMessage (path : FilePath) (fault : AccessFault) : String :=
  fault.message ++ ": " ++ String.ofList (Text.quoted (Path.normalized path))

end Messages

end PatternInspector.Files
