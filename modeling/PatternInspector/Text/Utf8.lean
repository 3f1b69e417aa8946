import PatternInspector.Text.Basic

/-!
Texts as bytes in UTF-8, read one byte at a time. A character of several bytes is pending until its
last byte; a byte that cannot continue it starts anew, so that every broken character is found at
its own place.
-/
namespace PatternInspector.Utf8

section Faults

inductive FaultKind where
  /-- No character starts with this byte. -/
  | start
  /-- The next byte cannot continue the character. -/
  | continuation
  /-- The bytes end inside the character. -/
  | truncated
  deriving DecidableEq

/-- Bytes that form no character, and how many bytes stand before them. -/
structure Fault where
  position : Nat
  bytes : List UInt8
  kind : FaultKind
  deriving DecidableEq

end Faults

section Steps

structure Pending where
  position : Nat
  /-- The bytes so far, the last one first. -/
  taken : List UInt8
  /-- How many bytes have to follow. -/
  owed : Nat
  /-- Least and greatest value of the next byte. -/
  low : Nat
  high : Nat
  /-- The bits so far. -/
  code : Nat

def Pending.fault (pending : Pending) (kind : FaultKind) : Fault :=
  ⟨pending.position, pending.taken.reverse, kind⟩

abbrev Piece := Except Fault Char

/-- What reading a byte gives: pieces that are complete, and the character that is pending. -/
abbrev Step := List Piece × Option Pending

def startAt (position : Nat) (byte : UInt8) : Step :=
  let n := byte.toNat
  let pending (owed low high code : Nat) : Step := ([], some ⟨position, [byte], owed, low, high, code⟩)
  if n < 0x80 then ([.ok (Char.ofNat n)], none)
  else if n < 0xc2 then ([.error ⟨position, [byte], .start⟩], none)
  else if n < 0xe0 then pending 1 0x80 0xbf (n - 0xc0)
  else if n = 0xe0 then pending 2 0xa0 0xbf 0
  else if n = 0xed then pending 2 0x80 0x9f 0xd
  else if n < 0xf0 then pending 2 0x80 0xbf (n - 0xe0)
  else if n = 0xf0 then pending 3 0x90 0xbf 0
  else if n < 0xf4 then pending 3 0x80 0xbf (n - 0xf0)
  else if n = 0xf4 then pending 3 0x80 0x8f 4
  else ([.error ⟨position, [byte], .start⟩], none)

def Pending.push (pending : Pending) (byte : UInt8) : Step :=
  let code := pending.code * 64 + (byte.toNat - 0x80)
  if pending.owed ≤ 1 then ([.ok (Char.ofNat code)], none)
  else ([], some {
    pending with
    taken := byte :: pending.taken
    owed := pending.owed - 1
    low := 0x80
    high := 0xbf
    code })

def step (position : Nat) (byte : UInt8) : Option Pending → Step
  | none => startAt position byte
  | some pending =>
      if pending.low ≤ byte.toNat && byte.toNat ≤ pending.high then pending.push byte
      else
        let (pieces, next) := startAt position byte
        (.error (pending.fault .continuation) :: pieces, next)

def piecesFrom (position : Nat) (pending : Option Pending) : List UInt8 → List Piece
  | [] => pending.toList.map fun unfinished => .error (unfinished.fault .truncated)
  | byte :: rest =>
      let (pieces, next) := step position byte pending
      pieces ++ piecesFrom (position + 1) next rest

def pieces (bytes : List UInt8) : List Piece := piecesFrom 0 none bytes

end Steps

def decode (bytes : List UInt8) : Except Fault Text := (pieces bytes).mapM id

/-- The text with a replacement character for each fault. -/
def decodeLossy (bytes : List UInt8) : Text :=
  (pieces bytes).map fun piece =>
    match piece with
    | .ok c => c
    | .error _ => '\ufffd'

def encode (text : String) : List UInt8 := text.toUTF8.toList

end PatternInspector.Utf8
