import PatternInspector.Value.Shortest
import PatternInspector.Yaml.Cursor

/-!
The numbers, truth values and dates that scalars stand for.
-/
namespace PatternInspector.Yaml

section Truth

def truth? (word : String) : Option Bool :=
  match word with
  | "yes" | "true" | "on" => some true
  | "no" | "false" | "off" => some false
  | _ => none

end Truth

section Integers

def digitOf? (base : Nat) (c : Char) : Option Nat :=
  let found :=
    if Text.isDigit c then some (c.toNat - '0'.toNat)
    else if 'a' ≤ c && c ≤ 'f' then some (c.toNat - 'a'.toNat + 10)
    else if 'A' ≤ c && c ≤ 'F' then some (c.toNat - 'A'.toNat + 10)
    else none
  found.filter (· < base)

def natural? (base : Nat) (digits : Text) : Option Nat :=
  if digits.isEmpty then none
  else digits.foldlM (fun n c => (digitOf? base c).map (base * n + ·)) 0

def splitSign : Text → Bool × Text
  | '-' :: rest => (true, rest)
  | '+' :: rest => (false, rest)
  | text => (false, text)

/-- Parts between colons count sixty times as much as those after them. -/
def sexagesimal (parts : List Nat) : Nat := parts.foldl (fun total part => 60 * total + part) 0

def maxIntegerDigits : Nat := 4300

def unsignedInteger? (text : Text) : Option Nat :=
  match text with
  | ['0'] => some 0
  | '0' :: 'b' :: digits => natural? 2 digits
  | '0' :: 'x' :: digits => natural? 16 digits
  | '0' :: _ => natural? 8 text
  | _ =>
      if text.contains ':' then ((text.splitOn ':').mapM (natural? 10)).map sexagesimal
      else if maxIntegerDigits < text.length then none
      else natural? 10 text

def integer (text : Text) : Except Fault Int :=
  match text.filter (· != '_') with
  | [] => .error .emptyNumber
  | kept =>
      let (negative, unsigned) := splitSign kept
      if unsigned.isEmpty then .error .emptyNumber
      else
        match unsignedInteger? unsigned with
        | some n => .ok (if negative then -n else n)
        | none => .error .badNumber

end Integers

section Decimals

def exponentOf? (text : Text) : Option Int :=
  let (negative, digits) := splitSign text
  (natural? 10 digits).map fun n => if negative then -n else n

def unsignedDecimal? (text : Text) : Option (Nat × Int) := do
  let head := text.takeWhile fun c => c != 'e' && c != 'E'
  let tail := text.drop head.length
  let power ← if tail.isEmpty then some 0 else exponentOf? (tail.drop 1)
  let whole := head.takeWhile (· != '.')
  let fraction := (head.drop whole.length).drop 1
  let mantissa ← natural? 10 (whole ++ fraction)
  return (mantissa, power - fraction.length)

def sexagesimalDecimal? (text : Text) : Option (Nat × Int) := do
  let parts := text.splitOn ':'
  let whole ← (parts.dropLast).mapM (natural? 10)
  let (mantissa, exponent) ← unsignedDecimal? (parts.getLast?.getD [])
  if exponent < -4300 || 0 < exponent then none
  else return (sexagesimal (whole ++ [0]) * Nat.pow 10 (-exponent).toNat + mantissa, exponent)

def decimal (text : Text) : Except Fault Decimal :=
  match text.filter (· != '_') with
  | [] => .error .emptyNumber
  | kept =>
      let (negative, unsigned) := splitSign kept
      let word := lowerAscii unsigned
      if word == ".inf" then .ok (.infinite negative)
      else if word == ".nan" then .ok .undefined
      else
        let found :=
          if unsigned.contains ':' then sexagesimalDecimal? unsigned else unsignedDecimal? unsigned
        match found with
        | some (mantissa, exponent) => .ok (Shortest.normalize negative mantissa exponent)
        | none => .error .badNumber
where
  lowerAscii (text : Text) : String :=
    String.ofList (text.map fun c =>
      if Text.isUpperLetter c then Char.ofNat (c.toNat + 32) else c)

end Decimals

section Dates

def isLeapYear (year : Nat) : Bool := year % 4 == 0 && (year % 100 != 0 || year % 400 == 0)

def daysIn (year month : Nat) : Nat :=
  if month == 2 then (if isLeapYear year then 29 else 28)
  else if [4, 6, 9, 11].contains month then 30
  else 31

def padded (width n : Nat) : String :=
  let digits := toString n
  Shortest.zeros (width - digits.length) ++ digits

def dateText (year month day : Nat) : String :=
  padded 4 year ++ "-" ++ padded 2 month ++ "-" ++ padded 2 day

def isDate (year month day : Nat) : Bool :=
  1 ≤ year && 1 ≤ month && month ≤ 12 && 1 ≤ day && day ≤ daysIn year month

def microseconds (digits : Text) : Nat :=
  let kept := digits.take 6
  ((natural? 10 kept).getD 0) * Nat.pow 10 (6 - kept.length)

def zoneText (negative : Bool) (minutes : Nat) : String :=
  (if negative && minutes != 0 then "-" else "+") ++ padded 2 (minutes / 60) ++ ":" ++
    padded 2 (minutes % 60)

/-- A zone: nothing, `Z`, or an offset of hours and minutes below a day. -/
def zone? (text : Text) : Option String :=
  match text with
  | [] => some ""
  | ['Z'] => some (zoneText false 0)
  | mark :: rest => do
      let hours ← natural? 10 (rest.takeWhile (· != ':'))
      let after := rest.dropWhile (· != ':')
      let minutes ← if after.isEmpty then some 0 else natural? 10 (after.drop 1)
      let total := 60 * hours + minutes
      if total < 24 * 60 then some (zoneText (mark == '-') total) else none

def clock? (text : Text) : Option String := do
  let hours ← natural? 10 (text.takeWhile Text.isDigit)
  let afterHours := (text.dropWhile Text.isDigit).drop 1
  let minutes ← natural? 10 (afterHours.take 2)
  let seconds ← natural? 10 ((afterHours.drop 3).take 2)
  let tail := afterHours.drop 5
  let fraction := if tail.head? == some '.' then (tail.drop 1).takeWhile Text.isDigit else []
  let rest := if tail.head? == some '.' then (tail.drop 1).dropWhile Text.isDigit else tail
  let zone ← zone? (rest.dropWhile isSpace)
  let micros := microseconds fraction
  if hours < 24 && minutes < 60 && seconds < 60 then
    some (" " ++ padded 2 hours ++ ":" ++ padded 2 minutes ++ ":" ++ padded 2 seconds ++
      (if micros == 0 then "" else "." ++ padded 6 micros) ++ zone)
  else none

/-- A date or time that has the form of one, in canonical form. -/
def moment (text : Text) : Except Fault String :=
  let found := do
    let year ← natural? 10 (text.take 4)
    let month ← natural? 10 ((text.drop 5).takeWhile Text.isDigit)
    let afterMonth := ((text.drop 5).dropWhile Text.isDigit).drop 1
    let day ← natural? 10 (afterMonth.takeWhile Text.isDigit)
    let rest := afterMonth.dropWhile Text.isDigit
    if !isDate year month day then none
    else if rest.isEmpty then some (dateText year month day)
    else
      let start := if rest.head?.any isSpace then rest.dropWhile isSpace else rest.drop 1
      (clock? start).map (dateText year month day ++ ·)
  match found with
  | some date => .ok date
  | none => .error .badNumber

end Dates

end PatternInspector.Yaml
