import RecordQuery.Proofs.Predicate.Joined

/-!
# Bracketing a chain of predicates

The predicates of a chain are joined two at a time, in whatever way the chain is bracketed.  Since a
joined predicate is flat, every bracketing of a chain is the same predicate; and its value is the
outcome of the first predicate of the chain that decides or fails, whatever groups have been merged.
-/

namespace RecordQuery

/-- A chain of predicates with brackets around every two that are joined. -/
inductive Bracketing where
  | single (predicate : Predicate)
  | pair (left right : Bracketing)
  deriving Repr

namespace Bracketing

/-- The predicates of a chain from left to right, without the brackets. -/
def chain : Bracketing → List Predicate
  | .single predicate => [predicate]
  | .pair left right => left.chain ++ right.chain

/-- The predicate of a bracketed chain: the two that stand in one pair of brackets are joined, by
`Predicate.and` or by `Predicate.or`. -/
def joined (connective : Connective) : Bracketing → Predicate
  | .single predicate => predicate
  | .pair left right => (left.joined connective).join connective (right.joined connective)

variable (connective : Connective)

theorem chain_length_pos (bracketing : Bracketing) : 1 ≤ bracketing.chain.length := by
  induction bracketing with
  | single predicate => exact Nat.le_refl 1
  | pair left right left_pos right_pos =>
      rw [chain, List.length_append]
      omega

theorem chain_pair_ne_singleton (left right : Bracketing) (predicate : Predicate) :
    (pair left right).chain ≠ [predicate] := by
  intro alone
  have left_pos := left.chain_length_pos
  have right_pos := right.chain_length_pos
  have one : left.chain.length + right.chain.length = 1 := by
    rw [← List.length_append]
    exact congrArg List.length alone
  omega

/-! ## The joined predicate -/

/-- A bracketed chain contributes to a group what its predicates contribute one by one. -/
theorem parts_joined (bracketing : Bracketing) :
    (bracketing.joined connective).parts connective =
      bracketing.chain.flatMap (Predicate.parts connective) := by
  induction bracketing with
  | single predicate => exact (List.flatMap_singleton _ _).symm
  | pair left right left_parts right_parts =>
      rw [joined, Predicate.parts_join, left_parts, right_parts, chain, List.flatMap_append]

theorem joined_pair (left right : Bracketing) :
    (pair left right).joined connective =
      .group connective ((pair left right).chain.flatMap (Predicate.parts connective)) := by
  rw [joined, Predicate.join, parts_joined, parts_joined, chain, List.flatMap_append]

theorem joined_eq_of_chain_eq {bracketing other : Bracketing}
    (same : other.chain = bracketing.chain) :
    other.joined connective = bracketing.joined connective := by
  cases bracketing with
  | single predicate =>
      cases other with
      | single alone => exact (List.cons.inj same).1
      | pair left right => exact absurd same (chain_pair_ne_singleton left right predicate)
  | pair left right =>
      cases other with
      | single alone => exact absurd same.symm (chain_pair_ne_singleton left right alone)
      | pair first second => rw [joined_pair, joined_pair, same]

/-! ## Its value -/

end Bracketing

/-- The outcome of a part ends the evaluation of a chain: it is an error or the deciding value. -/
def Connective.isFinal (connective : Connective) : Except EvaluationError Bool → Bool
  | .ok value => value == connective.decisive
  | .error _ => true

namespace Predicate

variable {target : Target} {connective : Connective}

/-- A group has the first outcome of its parts that is final, and the other value if there is
none. -/
theorem evaluateGroup_eq_find? (children : List Predicate) :
    evaluateGroup target connective children =
      ((children.map (evaluate target)).find? connective.isFinal).getD
        (.ok !connective.decisive) := by
  induction children with
  | nil => rfl
  | cons child children ih =>
      rw [evaluateGroup_cons, ih, List.map_cons, List.find?_cons]
      cases child.evaluate target using connective.cases_result with
      | error error => rfl
      | decisive =>
          rw [Connective.settle_decisive, Connective.isFinal, beq_self_eq_true]
          rfl
      | neutral =>
          have open_ended : connective.isFinal (.ok !connective.decisive) = false := by
            cases connective <;> rfl
          rw [Connective.neutral_settle, open_ended]

end Predicate

namespace Bracketing

theorem evaluate_joined (connective : Connective) (bracketing : Bracketing) (target : Target) :
    (bracketing.joined connective).evaluate target =
      Predicate.evaluateGroup target connective bracketing.chain := by
  induction bracketing with
  | single predicate =>
      rw [joined, chain, Predicate.evaluateGroup_cons]
      exact (connective.settle_neutral _).symm
  | pair left right left_same right_same =>
      rw [joined, Predicate.evaluate_join, left_same, right_same, chain,
        Predicate.evaluateGroup_append]

/-- Every bracketing of a chain is joined to the same predicate.  Its value is the first outcome
along the chain that is an error or decides, and the other value if every predicate has that, just
like the value of the group in which nothing has been merged. -/
theorem joined_chain (connective : Connective) (bracketing : Bracketing) :
    (∀ other : Bracketing, other.chain = bracketing.chain →
        other.joined connective = bracketing.joined connective) ∧
      ∀ target : Target,
        (bracketing.joined connective).evaluate target =
            ((bracketing.chain.map (Predicate.evaluate target)).find? connective.isFinal).getD
              (.ok !connective.decisive) ∧
          (bracketing.joined connective).evaluate target =
            (Predicate.group connective bracketing.chain).evaluate target := by
  refine ⟨fun other same => joined_eq_of_chain_eq connective same, fun target => ?_⟩
  rw [evaluate_joined]
  exact ⟨Predicate.evaluateGroup_eq_find? _, rfl⟩

/-- An empty group, a group of the same kind around an empty one of the other kind, and a
comparison, bracketed from the left. -/
def unevenLeft : Bracketing :=
  .pair (.pair (.single (.group .and [])) (.single (.group .and [.everything, .group .or []])))
    (.single (.compare "rating" (.relates .gt (.int 1))))

/-- The same chain bracketed from the right. -/
def unevenRight : Bracketing :=
  .pair (.single (.group .and [])) (.pair (.single (.group .and [.everything, .group .or []]))
    (.single (.compare "rating" (.relates .gt (.int 1)))))

/-- The comparison fails where there is no rating, but the empty group decides before it. -/
theorem joined_chain_uneven :
    unevenRight.chain = unevenLeft.chain ∧
      unevenRight.joined .and = unevenLeft.joined .and ∧
      (unevenLeft.joined .and).evaluate (Target.ofList []) = .ok false ∧
      (unevenLeft.joined .or).evaluate (Target.ofList []) = .ok true := by
  refine ⟨rfl, (joined_chain .and unevenLeft).1 unevenRight rfl, ?_, ?_⟩
  · rw [((joined_chain .and unevenLeft).2 _).1]
    rfl
  · rw [((joined_chain .or unevenLeft).2 _).1]
    rfl

end Bracketing
end RecordQuery
