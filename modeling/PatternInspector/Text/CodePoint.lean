import PatternInspector.Text.Hex

/-!
Texts that need not be well formed: they consist of characters and of surrogates that stand alone.
Names of files are such texts, because their bytes need not be those of characters.
-/
namespace PatternInspector

inductive CodePoint where
  | char (c : Char)
  /-- A surrogate, by its distance from the first one. -/
  | surrogate (offset : Fin 0x800)
  deriving DecidableEq

abbrev CodePoints := List CodePoint

namespace CodePoint

def ofText (text : Text) : CodePoints := text.map .char

def number : CodePoint → Nat
  | .char c => c.toNat
  | .surrogate offset => 0xd800 + offset

def isByte (offset : Fin 0x800) : Bool := 0x480 ≤ offset.val && offset.val < 0x500

def isEncodable : CodePoint → Bool
  | .char _ => true
  | .surrogate offset => isByte offset

def byteSize : CodePoint → Nat
  | .char c => c.utf8Size
  | .surrogate _ => 1

def shown : CodePoint → Text
  | .char c => [c]
  | .surrogate offset => '\\' :: 'u' :: Text.hex 4 (0xd800 + offset)

end CodePoint

instance : Coe String CodePoints := ⟨fun text => CodePoint.ofText text.toList⟩

namespace CodePoints

def byteSize (points : CodePoints) : Nat :=
  points.foldl (fun size point => size + point.byteSize) 0

def display (points : CodePoints) : String := String.ofList (points.flatMap CodePoint.shown)

def includes (fragment : CodePoints) : CodePoints → Bool
  | [] => fragment.isEmpty
  | point :: rest => fragment.isPrefixOf (point :: rest) || includes fragment rest

end CodePoints

end PatternInspector
