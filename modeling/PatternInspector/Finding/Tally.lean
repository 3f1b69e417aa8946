/-!
Counting equal entries of a list, in order of first appearance.
-/
namespace PatternInspector

variable {α : Type} [DecidableEq α]

def addCount (entry : α) : List (α × Nat) → List (α × Nat)
  | [] => [(entry, 1)]
  | (known, count) :: rest =>
      if known = entry then (known, count + 1) :: rest
      else (known, count) :: addCount entry rest

def tally (entries : List α) : List (α × Nat) :=
  entries.foldl (fun counts entry => addCount entry counts) []

end PatternInspector
