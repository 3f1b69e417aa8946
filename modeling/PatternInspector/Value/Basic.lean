/-!
Untyped data: what configuration files hold before they are checked, and what reports become when
they are handed out. Mappings keep the order in which their keys were first given.
-/
namespace PatternInspector

/-- A finite or infinite decimal number: `mantissa * 10 ^ exponent`, or one of the special values. -/
inductive Decimal where
  | finite (negative : Bool) (mantissa : Nat) (exponent : Int)
  | infinite (negative : Bool)
  | undefined
  deriving DecidableEq

inductive Value where
  | null
  | bool (truth : Bool)
  | int (number : Int)
  | decimal (number : Decimal)
  | string (text : String)
  /-- A calendar date or time, as it was written. -/
  | date (text : String)
  /-- A list. The label tells lists apart that one document mentions several times. -/
  | list (label : Option Nat) (items : List Value)
  /-- A mapping, labelled like a list. -/
  | mapping (label : Option Nat) (entries : List (Value × Value))

instance : Inhabited Value := ⟨.null⟩

namespace Value

section Building

def nat (n : Nat) : Value := .int n

def items (values : List Value) : Value := .list none values

def strings (values : List String) : Value := items (values.map .string)

def object (fields : List (String × Value)) : Value :=
  .mapping none (fields.map fun field => (.string field.1, field.2))

def optional {α : Type} (encode : α → Value) : Option α → Value
  | none => .null
  | some value => encode value

end Building

section Access

def isString (s : String) : Value → Bool
  | .string text => text == s
  | _ => false

def lookup (key : String) : List (Value × Value) → Option Value
  | [] => none
  | (found, value) :: rest => if isString key found then some value else lookup key rest

def Decimal.isZero : Decimal → Bool
  | .finite _ mantissa _ => mantissa == 0
  | _ => false

/-- Whether a value counts as empty: no value, false, zero, and texts and collections of length
zero. -/
def isEmpty : Value → Bool
  | .null => true
  | .bool truth => !truth
  | .int number => number == 0
  | .decimal number => Decimal.isZero number
  | .string text => text.isEmpty
  | .date _ => false
  | .list _ values => values.isEmpty
  | .mapping _ entries => entries.isEmpty

end Access

end Value

end PatternInspector
