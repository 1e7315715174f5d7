import RecordQuery.Value.Order

/-!
# Which values can be compared

Kinds fall into classes: two values are comparable for equality exactly if the classes of their
kinds are the same, and they stand in an order under the same condition unless they are Booleans.
-/

namespace RecordQuery

/-- The classes of kinds whose values are compared with one another. -/
inductive ComparisonClass where
  | truth
  | number
  | text
  | date
  | instant
  | time
  deriving DecidableEq, Repr

/-- The class of a kind: ints and doubles are numbers, strings and cases of an enumeration are
texts, and every other kind is a class of its own. -/
def Kind.comparisonClass : Kind → ComparisonClass
  | .bool => .truth
  | .int | .double => .number
  | .string | .enum => .text
  | .date => .date
  | .dateTime => .instant
  | .time => .time

namespace Value

theorem isSome_equal?_iff {a b : Value} :
    (a.equal? b).isSome = true ↔ a.kind.comparisonClass = b.kind.comparisonClass := by
  cases a <;> cases b <;>
    simp [equal?, compareAs, caseText?, number?, kind, Kind.comparisonClass]

theorem isSome_order?_iff {a b : Value} :
    (a.order? b).isSome = true ↔
      a.kind.comparisonClass = b.kind.comparisonClass ∧ a.kind ≠ .bool := by
  cases a <;> cases b <;>
    simp [order?, compareAs, caseText?, number?, kind, Kind.comparisonClass]

end Value
end RecordQuery
