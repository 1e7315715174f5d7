import RecordQuery.Predicate.Evaluation
import RecordQuery.Proofs.Predicate.Structure

/-!
# Evaluating joined predicates

The results of the parts of a group are combined one after the other.  Combining is associative and
the result of the empty group is neutral, so it makes no difference where the parts of a group stand:
a joined predicate gives what its two sides give one after the other, although it has been flattened.
-/

namespace RecordQuery

namespace Connective

/-- The result of two parts under a connective.  The second is asked for only if the first does not
decide. -/
def settle (connective : Connective) (first later : Except EvaluationError Bool) :
    Except EvaluationError Bool := do
  if (← first) == connective.decisive then return connective.decisive else later

variable (connective : Connective)

theorem settle_error (error : EvaluationError) (later : Except EvaluationError Bool) :
    connective.settle (.error error) later = .error error :=
  rfl

theorem settle_decisive (later : Except EvaluationError Bool) :
    connective.settle (.ok connective.decisive) later = .ok connective.decisive := by
  cases connective <;> rfl

@[simp]
theorem neutral_settle (later : Except EvaluationError Bool) :
    connective.settle (.ok !connective.decisive) later = later := by
  cases connective <;> rfl

/-- A result is an error, the value that decides, or the other value. -/
theorem cases_result {motive : Except EvaluationError Bool → Prop}
    (error : ∀ error, motive (.error error)) (decisive : motive (.ok connective.decisive))
    (neutral : motive (.ok !connective.decisive)) (result : Except EvaluationError Bool) :
    motive result := by
  cases result with
  | error refusal => exact error refusal
  | ok value =>
      by_cases decides : value = connective.decisive
      · exact decides ▸ decisive
      · exact Bool.eq_not.mpr decides ▸ neutral

@[simp]
theorem settle_neutral (first : Except EvaluationError Bool) :
    connective.settle first (.ok !connective.decisive) = first := by
  cases first using connective.cases_result with
  | error error => rfl
  | decisive => exact connective.settle_decisive _
  | neutral => exact connective.neutral_settle _

/-- Two parts have a value if the first decides it, or if the first has the other value and the second
gives it. -/
theorem settle_eq_ok_iff {first later : Except EvaluationError Bool} {value : Bool} :
    connective.settle first later = .ok value ↔
      first = .ok connective.decisive ∧ value = connective.decisive ∨
        first = .ok (!connective.decisive) ∧ later = .ok value := by
  cases first using connective.cases_result with
  | error error => simp [settle_error]
  | decisive => simp [settle_decisive, eq_comm]
  | neutral => simp

theorem settle_assoc (first second third : Except EvaluationError Bool) :
    connective.settle (connective.settle first second) third =
      connective.settle first (connective.settle second third) := by
  cases first using connective.cases_result with
  | error error => rfl
  | decisive => rw [settle_decisive, settle_decisive, settle_decisive]
  | neutral => rw [neutral_settle, neutral_settle]

end Connective

namespace Predicate

variable {target : Target} {connective : Connective}

theorem evaluateGroup_cons (child : Predicate) (children : List Predicate) :
    evaluateGroup target connective (child :: children) =
      connective.settle (child.evaluate target) (evaluateGroup target connective children) := by
  rw [evaluateGroup]
  rfl

theorem evaluateGroup_append (children others : List Predicate) :
    evaluateGroup target connective (children ++ others) =
      connective.settle (evaluateGroup target connective children)
        (evaluateGroup target connective others) := by
  induction children with
  | nil => exact (connective.neutral_settle _).symm
  | cons child children ih =>
      rw [List.cons_append, evaluateGroup_cons, evaluateGroup_cons, ih, Connective.settle_assoc]

/-- What a predicate contributes to a group gives there what the predicate gives. -/
theorem evaluateGroup_parts (predicate : Predicate) :
    evaluateGroup target connective (predicate.parts connective) = predicate.evaluate target := by
  by_cases part : predicate.IsPart connective
  · rw [parts_of_isPart part, evaluateGroup_cons]
    exact connective.settle_neutral _
  · cases predicate with
    | group connective' children =>
        obtain rfl : connective' = connective := Decidable.of_not_not part
        rw [parts_group, evaluate]
    | compare | negation | constant => exact absurd trivial part

/-- Two joined predicates give what they give one after the other. -/
theorem evaluate_join (left right : Predicate) :
    (left.join connective right).evaluate target =
      connective.settle (left.evaluate target) (right.evaluate target) := by
  rw [join, evaluate, evaluateGroup_append, evaluateGroup_parts, evaluateGroup_parts]

end Predicate
end RecordQuery
