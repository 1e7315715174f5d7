import RecordQuery.Double.Rounding
import RecordQuery.Value.Basic

/-!
# Comparing values

Two values are compared exactly if both are ints, and as doubles if both are numbers of different
kinds or doubles.  Strings and enumeration cases compare by their text, in the order of code
points.  Dates, instants and times compare among their own kind, and so do Booleans, which are
equal or not but stand in no order.  Every other pair of kinds is not comparable.
-/

namespace RecordQuery
namespace Value

/-- A number as a double. -/
def number? : Value → Option Double
  | .int value => some (Double.ofInt value.toInt)
  | .double value => some value
  | _ => none

/-- The text that a string or an enumeration case compares by. -/
def caseText? : Value → Option String
  | .string text => some text
  | .enum case => some case
  | _ => none

/-- The result of comparing what two values are read as, if both can be read so. -/
def compareAs {α β : Type} (read : Value → Option α) (compare : α → α → β) (a b : Value) :
    Option β :=
  match read a, read b with
  | some a, some b => some (compare a b)
  | _, _ => none

/-- How two values stand in order.  The outer option is empty when the kinds have no order, the
inner one when a NaN is involved. -/
def order? : Value → Value → Option (Option Ordering)
  | .int a, .int b => some (some (compare a.toInt b.toInt))
  | .date a, .date b => some (some (compare a.index b.index))
  | .dateTime a, .dateTime b => some (some (compare a.index b.index))
  | .time a, .time b => some (some (compare a.index b.index))
  | a, b =>
    (compareAs caseText? (fun a b => some (compare a b)) a b).or
      (compareAs number? Double.compare? a b)

/-- Equality of two values; nothing when the kinds are not comparable. -/
def equal? : Value → Value → Option Bool
  | .bool a, .bool b => some (a == b)
  | .int a, .int b => some (a == b)
  | .date a, .date b => some (a == b)
  | .dateTime a, .dateTime b => some (a == b)
  | .time a, .time b => some (a == b)
  | a, b => (compareAs caseText? (· == ·) a b).or (compareAs number? Double.equal a b)

/-- The values are of one kind and stand for the same: doubles that are equal as numbers, and
otherwise the same value. -/
def agrees : Value → Value → Bool
  | .double a, .double b => a.equal b
  | a, b => a == b

end Value
end RecordQuery
