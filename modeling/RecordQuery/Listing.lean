import RecordQuery.Predicate.Evaluation
import RecordQuery.Sorting

/-!
# Listing the values of a field

The values that a field holds are listed by their texts, each once, in the order of code points.
With counts, each line ends in the number of records that hold the value, and the lines are ranked
by it; equal counts stay in the order of the values.
-/

namespace RecordQuery
namespace Listing

/-- The text with one more occurrence. -/
def add (text : String) : List (String × Nat) → List (String × Nat)
  | [] => [(text, 1)]
  | (counted, count) :: counts =>
    if counted = text then (counted, count + 1) :: counts else (counted, count) :: add text counts

/-- How often each text of a value occurs under a field.  Targets on which the field is unset do
not count. -/
def collect (targets : List Target) (field : String) :
    Except EvaluationError (List (String × Nat)) :=
  targets.foldlM (fun counts target => do
    match ← target field with
    | some value => return add (toString value) counts
    | none => return counts) []

/-- The first text comes before the second or is the same. -/
def precedes (a b : String × Nat) : Bool := a.1 ≤ b.1

/-- The first text is counted at least as often as the second. -/
def outranks (a b : String × Nat) : Bool := b.2 ≤ a.2

/-- The lines of a listing.  The texts are sorted before they are ranked, and ranking leaves texts
that are counted equally often in their order. -/
def lines (counts : List (String × Nat)) (showCounts : Bool) : List String :=
  let sorted := Sorting.sort precedes counts
  if showCounts then
    (Sorting.sort outranks sorted).map fun (text, count) => text ++ ": " ++ toString count
  else
    sorted.map (·.1)

end Listing
end RecordQuery
