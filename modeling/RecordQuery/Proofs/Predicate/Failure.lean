import RecordQuery.Predicate.Evaluation
import RecordQuery.Proofs.Predicate.Structure
import RecordQuery.Proofs.Result
import RecordQuery.Proofs.Value.Comparable

/-!
# Why an evaluation fails

An evaluation ends in the error of one of the comparisons.  A comparison fails either because its
field cannot be asked for or because its operator does not compare the kind of the value with the
kind of an operand, which depends on nothing but the operator and the two kinds.
-/

namespace RecordQuery

/-- The operator has a result on values of the two kinds. -/
structure Operator.Compares (operator : Operator) (left right : Kind) : Prop where
  /-- Values of the two kinds are comparable. -/
  sameClass : left.comparisonClass = right.comparisonClass
  /-- Booleans stand in no order. -/
  ordered : operator.isOrdering = true → left ≠ .bool
  /-- A text is looked for in strings only. -/
  searched : operator.isTextTest = true → left = .string

/-! ## Conditions -/

theorem Relation.isSome_holds?_iff {relation : Relation} {value operand : Value} :
    (relation.holds? value operand).isSome = true ↔
      (Operator.relates relation).Compares value.kind operand.kind := by
  have equality : (value.equal? operand).isSome = true ↔ _ := Value.isSome_equal?_iff
  have order : (value.order? operand).isSome = true ↔ _ := Value.isSome_order?_iff
  constructor
  · intro holds
    cases relation with
    | eq | ne => exact ⟨equality.mp (by simpa [holds?] using holds), nofun, nofun⟩
    | _ =>
        obtain ⟨sameClass, ordered⟩ := order.mp (by simpa [holds?] using holds)
        exact ⟨sameClass, fun _ => ordered, nofun⟩
  · intro compares
    cases relation with
    | eq | ne => simpa [holds?] using equality.mpr compares.sameClass
    | _ => simpa [holds?] using order.mpr ⟨compares.sameClass, compares.ordered rfl⟩

namespace Condition

theorem supported_eq_error_iff {operator : Operator} {left right : Kind} {result : Option Bool}
    {error : EvaluationError} :
    supported operator left right result = .error error ↔
      result = none ∧ error = .unsupportedComparison left right operator := by
  cases result with
  | none => simp [supported, eq_comm]
  | some value => simp [supported]

theorem not_compares_of_holds?_eq_none {relation : Relation} {value operand : Value}
    (fails : relation.holds? value operand = none) :
    ¬ (Operator.relates relation).Compares value.kind operand.kind := by
  rw [← Relation.isSome_holds?_iff, fails]
  exact Bool.false_ne_true

/-- A condition fails on a value because of an operand of a kind that its operator does not compare
with the kind of the value. -/
theorem exists_operand_of_test_eq_error {condition : Condition} {value : Value}
    {error : EvaluationError} (fails : condition.test value = .error error) :
    ∃ operand ∈ condition.operands,
      ¬ condition.operator.Compares value.kind operand.kind ∧
        error = .unsupportedComparison value.kind operand.kind condition.operator := by
  cases condition with
  | relates relation operand =>
      obtain ⟨undefined, rfl⟩ := supported_eq_error_iff.mp fails
      exact ⟨operand, .head _, not_compares_of_holds?_eq_none undefined, rfl⟩
  | finds test needle =>
      obtain ⟨noText, rfl⟩ := supported_eq_error_iff.mp fails
      refine ⟨.string needle, .head _, fun compares => ?_, rfl⟩
      have string : value.kind = .string := compares.searched rfl
      cases value with
      | string text => cases noText
      | _ => cases string
  | between lower upper =>
      have bound {relation : Relation} (ordering : relation.isOrdering = true) {operand : Value}
          (undefined : relation.holds? value operand = none) :
          ¬ Operator.between.Compares value.kind operand.kind := fun compares =>
        not_compares_of_holds?_eq_none undefined
          ⟨compares.sameClass, fun _ => compares.ordered rfl, nofun⟩
      rcases bind_eq_error_iff.mp fails with lowerFails | ⟨fromLower, -, fails⟩
      · obtain ⟨undefined, rfl⟩ := supported_eq_error_iff.mp lowerFails
        exact ⟨lower, .head _, bound rfl undefined, rfl⟩
      · rcases bind_eq_error_iff.mp fails with upperFails | ⟨toUpper, -, done⟩
        · obtain ⟨undefined, rfl⟩ := supported_eq_error_iff.mp upperFails
          exact ⟨upper, .tail _ (.head _), bound rfl undefined, rfl⟩
        · cases done

end Condition

/-! ## Predicates -/

namespace Predicate

variable {target : Target} {error : EvaluationError}

/-- A comparison fails where its field cannot be asked for or where its condition fails. -/
theorem evaluate_compare_eq_error {name : String} {condition : Condition}
    (fails : (compare name condition).evaluate target = .error error) :
    target name = .error error ∨
      ∃ value, target name = .ok (some value) ∧ condition.test value = .error error := by
  rw [evaluate] at fails
  rcases bind_eq_error_iff.mp fails with unknown | ⟨held, found, fails⟩
  · exact .inl unknown
  · cases held with
    | none => cases fails
    | some value => exact .inr ⟨value, found, fails⟩

theorem exists_child_of_evaluateGroup_eq_error {connective : Connective}
    {children : List Predicate}
    (fails : evaluateGroup target connective children = .error error) :
    ∃ child ∈ children, child.evaluate target = .error error := by
  induction children with
  | nil => cases fails
  | cons child children ih =>
      rw [evaluateGroup] at fails
      rcases bind_eq_error_iff.mp fails with childFails | ⟨value, -, fails⟩
      · exact ⟨child, List.mem_cons_self, childFails⟩
      · split at fails
        · cases fails
        · obtain ⟨other, member, otherFails⟩ := ih fails
          exact ⟨other, List.mem_cons_of_mem _ member, otherFails⟩

/-- An evaluation that fails does so with the error of one of the comparisons. -/
theorem exists_comparison_of_evaluate_eq_error {predicate : Predicate}
    (fails : predicate.evaluate target = .error error) :
    ∃ comparison ∈ predicate.comparisons,
      (compare comparison.1 comparison.2).evaluate target = .error error := by
  induction predicate with
  | compare name condition => exact ⟨(name, condition), .head _, fails⟩
  | group connective children ih =>
      rw [evaluate] at fails
      obtain ⟨child, member, childFails⟩ := exists_child_of_evaluateGroup_eq_error fails
      obtain ⟨comparison, inside, comparisonFails⟩ := ih child member childFails
      exact ⟨comparison, mem_comparisons_group.mpr ⟨child, member, inside⟩, comparisonFails⟩
  | negation child ih =>
      rw [evaluate] at fails
      rcases bind_eq_error_iff.mp fails with childFails | ⟨value, -, done⟩
      · exact ih childFails
      · cases done
  | constant value => cases fails

/-- Where every item has an answer, a predicate selects the items whose answer is true. -/
theorem filter_eq_ok {α : Type} {predicate : Predicate} {target : α → Target}
    {answer : α → Bool} {items : List α}
    (answers : ∀ item ∈ items, predicate.evaluate (target item) = .ok (answer item)) :
    predicate.filter target items = .ok (items.filter answer) := by
  induction items with
  | nil => rfl
  | cons item items ih =>
      obtain ⟨first, later⟩ := List.forall_mem_cons.mp answers
      rw [filter, first, ih later, List.filter_cons]
      cases answer item <;> rfl

/-- A predicate has an answer on every item of a list that it filters. -/
theorem exists_answer_of_filter_eq_ok {α : Type} {predicate : Predicate} {target : α → Target}
    {items selected : List α} (filtered : predicate.filter target items = .ok selected) :
    ∀ item ∈ items, ∃ answer, predicate.evaluate (target item) = .ok answer := by
  induction items generalizing selected with
  | nil => exact List.forall_mem_nil _
  | cons item items ih =>
      obtain ⟨answer, answered, filtered⟩ := bind_eq_ok_iff.mp filtered
      obtain ⟨others, othersFiltered, -⟩ := bind_eq_ok_iff.mp filtered
      exact List.forall_mem_cons.mpr ⟨⟨answer, answered⟩, ih othersFiltered⟩

/-- A predicate filters a list if it has an answer on every item, and selects those on which the
answer is true. -/
theorem filter_eq_ok_iff {α : Type} {predicate : Predicate} {target : α → Target}
    {items selected : List α} :
    predicate.filter target items = .ok selected ↔
      ∃ answer : α → Bool, (∀ item ∈ items, predicate.evaluate (target item) = .ok (answer item)) ∧
        selected = items.filter answer := by
  constructor
  · intro filtered
    let answer (item : α) : Bool := (predicate.evaluate (target item)).toOption.getD false
    have answers : ∀ item ∈ items, predicate.evaluate (target item) = .ok (answer item) := by
      intro item member
      obtain ⟨found, answered⟩ := exists_answer_of_filter_eq_ok filtered item member
      simp only [answer, answered, Except.toOption, Option.getD_some]
    rw [filter_eq_ok answers] at filtered
    exact ⟨answer, answers, (Except.ok.inj filtered).symm⟩
  · rintro ⟨answer, answers, rfl⟩
    exact filter_eq_ok answers

end Predicate
end RecordQuery
