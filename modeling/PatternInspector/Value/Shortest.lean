import PatternInspector.Value.Basic

/-!
Decimal numbers as binary floating point keeps them: a number is rounded to 53 significant bits, and
stands for the decimal with the fewest digits that rounds to the same bits.
-/
namespace PatternInspector.Shortest

section Rounding

structure Ratio where
  num : Nat
  den : Nat

def Ratio.scaled (mantissa base : Nat) (exponent : Int) : Ratio :=
  if 0 ≤ exponent then ⟨mantissa * Nat.pow base exponent.toNat, 1⟩
  else ⟨mantissa, Nat.pow base (-exponent).toNat⟩

def Ratio.floorAt (r : Ratio) (base : Nat) (exponent : Int) : Nat :=
  if 0 ≤ exponent then r.num / (r.den * Nat.pow base exponent.toNat)
  else r.num * Nat.pow base (-exponent).toNat / r.den

def Ratio.compareTo (r : Ratio) (mantissa base : Nat) (exponent : Int) : Ordering :=
  let point := Ratio.scaled mantissa base exponent
  compare (point.num * r.den) (r.num * point.den)

structure Binary where
  bits : Nat
  exponent : Int

def leastExponent : Int := -1074

def greatestExponent : Int := 971

/-- The exponent at which the whole part of the fraction has 53 bits. -/
def exponentOf (r : Ratio) : Int :=
  let guess : Int := (r.num.log2 : Int) - r.den.log2 - 52
  let exact := if r.floorAt 2 guess < Nat.pow 2 52 then guess - 1 else guess
  max exact leastExponent

/-- The nearest number with 53 bits; of two equally near ones that with an even last bit. -/
def round (r : Ratio) : Binary :=
  let exponent := exponentOf r
  let floor := r.floorAt 2 exponent
  let bits :=
    match r.compareTo (2 * floor + 1) 2 (exponent - 1) with
    | .lt => floor + 1
    | .gt => floor
    | .eq => floor + floor % 2
  if bits = Nat.pow 2 53 then ⟨Nat.pow 2 52, exponent + 1⟩ else ⟨bits, exponent⟩

end Rounding

section Digits

def Binary.ratio (b : Binary) : Ratio := .scaled b.bits 2 b.exponent

/-- Whether the decimal `mantissa * 10 ^ exponent` rounds to these bits. -/
def Binary.isHit (b : Binary) (mantissa : Nat) (exponent : Int) : Bool :=
  let found := round (.scaled mantissa 10 exponent)
  mantissa != 0 && found.bits == b.bits && found.exponent == b.exponent

/-- The neighbours of the number on a decimal grid, the nearer one first; of two equally near ones
the even one. -/
def neighbours (r : Ratio) (grid : Int) : List Nat :=
  let below := r.floorAt 10 grid
  match Ratio.compareTo ⟨2 * r.num, r.den⟩ (2 * below + 1) 10 grid with
  | .gt => [below, below + 1]
  | .lt => [below + 1, below]
  | .eq => if below % 2 = 0 then [below, below + 1] else [below + 1, below]

def digitCount (n : Nat) : Nat := (Nat.toDigits 10 n).length

/-- The grids from coarse to fine, the first one with a hit. -/
def search (b : Binary) (grid : Int) : Nat → Option (Nat × Int)
  | 0 => none
  | steps + 1 =>
      match (neighbours b.ratio grid).find? fun mantissa => b.isHit mantissa grid with
      | some mantissa => some (mantissa, grid)
      | none => search b (grid - 1) steps

def magnitude (r : Ratio) : Int :=
  if r.den ≤ r.num then digitCount (r.num / r.den)
  else -(digitCount (r.den / r.num) : Int) + 1

def ofBinary (b : Binary) : Nat × Int :=
  (search b (magnitude b.ratio) 20).getD (b.bits, 0)

end Digits

/-- Beyond these powers of ten a number is infinite, or zero. -/
def limit : Int := 400

def trimmed (mantissa : Nat) (exponent : Int) : Nat → Nat × Int
  | 0 => (mantissa, exponent)
  | steps + 1 =>
      if mantissa != 0 && mantissa % 10 == 0 then trimmed (mantissa / 10) (exponent + 1) steps
      else (mantissa, exponent)

def normalize (negative : Bool) (mantissa : Nat) (exponent : Int) : Decimal :=
  let top : Int := digitCount mantissa + exponent
  if mantissa = 0 || top < -limit then .finite negative 0 0
  else if limit < top then .infinite negative
  else
    let b := round (.scaled mantissa 10 exponent)
    if b.bits = 0 then .finite negative 0 0
    else if greatestExponent < b.exponent then .infinite negative
    else
      let (digits, power) := ofBinary b
      let (digits, power) := trimmed digits power (digitCount digits)
      .finite negative digits power

section Text

/-- From this power of ten on, and below the other one, a number is written with an exponent. -/
def positionalLimit : Int := 16

def positionalStart : Int := -4

def zeros (n : Nat) : String := String.ofList (List.replicate n '0')

def exponentText (exponent : Int) : String :=
  let digits := toString exponent.natAbs
  (if exponent < 0 then "e-" else "e+") ++ zeros (2 - digits.length) ++ digits

def finiteText (mantissa : Nat) (exponent : Int) : String :=
  let digits := toString mantissa
  let point : Int := digits.length + exponent
  if mantissa = 0 then "0.0"
  else if point ≤ positionalStart || positionalLimit < point then
    let fraction := String.ofList (digits.toList.drop 1)
    String.ofList (digits.toList.take 1) ++ (if fraction.isEmpty then "" else "." ++ fraction) ++
      exponentText (point - 1)
  else if point ≤ 0 then "0." ++ zeros (-point).toNat ++ digits
  else if 0 ≤ exponent then digits ++ zeros exponent.toNat ++ ".0"
  else
    String.ofList (digits.toList.take point.toNat) ++ "." ++
      String.ofList (digits.toList.drop point.toNat)

def text : Decimal → String
  | .finite negative mantissa exponent => (if negative then "-" else "") ++ finiteText mantissa exponent
  | .infinite negative => if negative then "-inf" else "inf"
  | .undefined => "nan"

end Text

end PatternInspector.Shortest
