import RecordQuery.Proofs.Predicate.Negation

/-!
# Missing values

A field that holds nothing satisfies no comparison, so taking values away can turn a comparison from
true to false and in no other way.  Groups hand this on, and a negation turns the direction round: a
predicate without negation that selects a target from which values are missing does not reject the
target that has them.  The two evaluations need not ask the same comparisons.  Where a part no
longer settles its group the later parts are asked too, so an error that one evaluation ends in may
be hidden from the other.
-/

namespace RecordQuery

/-- The other target differs only in that some fields which hold a value hold nothing there. -/
def Target.Unsets (target other : Target) : Prop :=
  ∀ field, other field = target field ∨
    (∃ value, target field = .ok (some value)) ∧ other field = .ok none

/-- A value that excludes the other value for the first part and for the later parts of a group
excludes it for the group. -/
theorem Connective.settle_ne (connective : Connective) {value : Bool}
    {first later first' later' : Except EvaluationError Bool}
    (excludesFirst : first' = .ok value → first ≠ .ok !value)
    (excludesLater : later' = .ok value → later ≠ .ok !value)
    (settled : connective.settle first' later' = .ok value) :
    connective.settle first later ≠ .ok !value := by
  intro opposite
  -- The first part may decide the group in one evaluation only; then its two values oppose.
  rcases connective.settle_eq_ok_iff.mp settled with ⟨decides, rfl⟩ | ⟨passes, settles⟩
  · rcases connective.settle_eq_ok_iff.mp opposite with ⟨-, same⟩ | ⟨passes, -⟩
    · exact (Bool.not_eq_self _).mp same
    · exact excludesFirst decides passes
  · rcases connective.settle_eq_ok_iff.mp opposite with ⟨decides, same⟩ | ⟨-, opposes⟩
    · obtain rfl : value = !connective.decisive := Bool.not_eq_eq_eq_not.mp same
      exact excludesFirst passes (by rw [Bool.not_not, decides])
    · exact excludesLater settles opposes

namespace Predicate

/-- No part of the predicate is a negation. -/
inductive NegationFree : Predicate → Prop where
  | compare {field : String} {condition : Condition} : NegationFree (.compare field condition)
  | group {connective : Connective} {children : List Predicate} :
      (∀ child ∈ children, NegationFree child) → NegationFree (.group connective children)
  | constant {value : Bool} : NegationFree (.constant value)

/-- Every comparison stands under an even number of negations, if the sign is true, or every one
under an odd number, if it is false. -/
inductive Signed : Bool → Predicate → Prop where
  | compare {field : String} {condition : Condition} : Signed true (.compare field condition)
  | group {sign : Bool} {connective : Connective} {children : List Predicate} :
      (∀ child ∈ children, Signed sign child) → Signed sign (.group connective children)
  | negation {sign : Bool} {child : Predicate} :
      Signed (!sign) child → Signed sign (.negation child)
  | constant {sign value : Bool} : Signed sign (.constant value)

theorem NegationFree.signed {predicate : Predicate} (negationFree : predicate.NegationFree) :
    Signed true predicate := by
  induction negationFree with
  | compare => exact .compare
  | group _ ih => exact .group ih
  | constant => exact .constant

variable {target other : Target}

/-- A comparison that is true without some values is not false with them. -/
theorem evaluate_compare_ne_of_unsets (unsets : target.Unsets other) {field : String}
    {condition : Condition} (selected : (compare field condition).evaluate other = .ok true) :
    (compare field condition).evaluate target ≠ .ok false := by
  rw [evaluate] at selected ⊢
  rcases unsets field with same | ⟨-, unset⟩
  · rw [← same, selected]
    simp
  · rw [unset] at selected
    cases selected

theorem evaluateGroup_ne {connective : Connective} {children : List Predicate} {value : Bool}
    (excludes : ∀ child ∈ children,
      child.evaluate other = .ok value → child.evaluate target ≠ .ok !value)
    (settled : evaluateGroup other connective children = .ok value) :
    evaluateGroup target connective children ≠ .ok !value := by
  induction children with
  | nil =>
      have same : evaluateGroup target connective [] = .ok value := settled
      rw [same]
      simp
  | cons child children ih =>
      obtain ⟨excludesChild, excludesChildren⟩ := List.forall_mem_cons.mp excludes
      rw [evaluateGroup_cons] at settled ⊢
      exact connective.settle_ne excludesChild (ih excludesChildren) settled

/-- Where every comparison stands under an even number of negations, a predicate that is true
without some values is not false with them.  Where each stands under an odd number, a predicate that
is false without some values is not true with them. -/
theorem Signed.evaluate_ne_of_unsets {predicate : Predicate} {sign : Bool}
    (signed : Signed sign predicate) (unsets : target.Unsets other)
    (settled : predicate.evaluate other = .ok sign) : predicate.evaluate target ≠ .ok !sign := by
  induction signed with
  | compare => exact evaluate_compare_ne_of_unsets unsets settled
  | group _ ih => exact evaluateGroup_ne ih settled
  | negation _ ih =>
      rw [evaluate_negation_eq_ok_iff] at settled
      intro opposite
      exact ih settled (evaluate_negation_eq_ok_iff.mp opposite)
  | @constant sign value =>
      have same : (Predicate.constant value).evaluate target = .ok sign := settled
      rw [same]
      simp

/-- A predicate without negation that selects a target from which values are missing has no other
value than true on the target that has them. -/
theorem evaluate_of_unsets {predicate : Predicate} (negationFree : predicate.NegationFree)
    (unsets : target.Unsets other) (selected : predicate.evaluate other = .ok true) {value : Bool}
    (answered : predicate.evaluate target = .ok value) : value = true := by
  have notFalse : predicate.evaluate target ≠ .ok false :=
    negationFree.signed.evaluate_ne_of_unsets unsets selected
  cases value with
  | true => rfl
  | false => exact absurd answered notFalse

/-- A target that holds a rating, a status and a title. -/
def finalTarget : Target :=
  Target.ofList
    [("rating", some (.int 1)), ("status", some (.string "final")),
      ("title", some (.string "Notes"))]

/-- The target without its rating. -/
def unratedTarget : Target := Function.update finalTarget "rating" (.ok none)

theorem unsets_unratedTarget : finalTarget.Unsets unratedTarget := by
  intro field
  by_cases rating : field = "rating"
  · rw [rating]
    exact .inr ⟨⟨.int 1, rfl⟩, rfl⟩
  · exact .inl (Function.update_of_ne rating _ _)

/-- There is a low rating and what the condition asks of the title, or the status is not draft. -/
def lowOrFinal (condition : Condition) : Predicate :=
  .group .or
    [.group .and [.compare "rating" (.relates .lt (.int 2)), .compare "title" condition],
      .compare "status" (.relates .ne (.string "draft"))]

theorem negationFree_lowOrFinal (condition : Condition) : (lowOrFinal condition).NegationFree := by
  have low : NegationFree
      (.group .and [.compare "rating" (.relates .lt (.int 2)), .compare "title" condition]) := by
    refine .group ?_
    simp only [List.forall_mem_cons]
    exact ⟨.compare, .compare, List.forall_mem_nil _⟩
  refine .group ?_
  simp only [List.forall_mem_cons]
  exact ⟨low, .compare, List.forall_mem_nil _⟩

/-- Without the rating the title is not looked at. -/
theorem evaluate_of_unsets_lowOrFinal :
    (lowOrFinal (.finds .contains "x")).NegationFree ∧ finalTarget.Unsets unratedTarget ∧
      (lowOrFinal (.finds .contains "x")).evaluate unratedTarget = .ok true ∧
      (lowOrFinal (.finds .contains "x")).evaluate finalTarget = .ok true := by
  have free := negationFree_lowOrFinal (.finds .contains "x")
  have selected : (lowOrFinal (.finds .contains "x")).evaluate unratedTarget = .ok true := by rfl
  obtain ⟨value, answered⟩ :
      ∃ value, (lowOrFinal (.finds .contains "x")).evaluate finalTarget = .ok value := ⟨_, by rfl⟩
  obtain rfl := evaluate_of_unsets free unsets_unratedTarget selected answered
  exact ⟨free, unsets_unratedTarget, selected, answered⟩

/-- With the rating a comparison of the title fails that is not asked for without it. -/
example : (lowOrFinal (.relates .eq (.int 1))).evaluate unratedTarget = .ok true ∧
    (lowOrFinal (.relates .eq (.int 1))).evaluate finalTarget =
      .error (.unsupportedComparison .string .int (.relates .eq)) := by
  constructor <;> rfl

end Predicate
end RecordQuery
