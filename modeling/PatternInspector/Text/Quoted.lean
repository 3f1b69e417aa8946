import PatternInspector.Text.CodePoint
import PatternInspector.Text.PrintableTable

/-!
Texts in quotes, as messages show them: characters without a visible form are written by number.
-/
namespace PatternInspector.Text

section Quoting

def isVisible (c : Char) : Bool :=
  if c.toNat < 0x80 then 0x20 ≤ c.toNat && c.toNat != 0x7f else !inRanges hiddenRanges c

/-- The quote for a text: a double one only around a text that holds single quotes alone. -/
def quoteFor (points : CodePoints) : Char :=
  if points.contains (.char '\'') && !points.contains (.char '"') then '"' else '\''

def escapeNumber (point : CodePoint) : Text :=
  let n := point.number
  if n < 0x100 then '\\' :: 'x' :: hex 2 n
  else if n < 0x10000 then '\\' :: 'u' :: hex 4 n
  else '\\' :: 'U' :: hex 8 n

def escapePoint (quote : Char) : CodePoint → Text
  | .surrogate offset => escapeNumber (.surrogate offset)
  | .char c =>
      if c == quote || c == '\\' then ['\\', c]
      else if c == '\n' then ['\\', 'n']
      else if c == '\r' then ['\\', 'r']
      else if c == '\t' then ['\\', 't']
      else if isVisible c then [c]
      else escapeNumber (.char c)

def quoted (points : CodePoints) : Text :=
  let quote := quoteFor points
  quote :: points.flatMap (escapePoint quote) ++ [quote]

end Quoting

end PatternInspector.Text
