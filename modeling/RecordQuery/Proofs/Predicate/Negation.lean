import Mathlib.Data.List.Forall2
import Mathlib.Logic.Relation
import RecordQuery.Proofs.Predicate.Joined

/-!
# Negations moved inward

De Morgan's laws exchange a negated group for the group of the other connective with every child
negated; two negations fall away, and a negated constant is the other one.  Applied for as long as
they can be, anywhere and in any order, these rules lead to one predicate, in which only comparisons
are negated.  It has the value of the first one on every target, and fails where that does with the
same error, since the two connectives stop at opposite values.
-/

namespace RecordQuery

/-- The other connective. -/
def Connective.dual : Connective → Connective
  | .and => .or
  | .or => .and

namespace Predicate

/-! ## The rules -/

/-- One negation somewhere in a predicate is moved a step inward. -/
inductive MovesInward : Predicate → Predicate → Prop where
  /-- De Morgan's law for either connective. -/
  | group (connective : Connective) (children : List Predicate) :
      MovesInward (.negation (.group connective children))
        (.group connective.dual (children.map .negation))
  | negation (child : Predicate) : MovesInward (.negation (.negation child)) child
  | constant (value : Bool) : MovesInward (.negation (.constant value)) (.constant !value)
  | inGroup (connective : Connective) (before after : List Predicate) {child moved : Predicate} :
      MovesInward child moved →
        MovesInward (.group connective (before ++ child :: after))
          (.group connective (before ++ moved :: after))
  | inNegation {child moved : Predicate} :
      MovesInward child moved → MovesInward (.negation child) (.negation moved)

/-- Negations of a predicate are moved inward by any number of steps. -/
def LeadsInward : Predicate → Predicate → Prop := Relation.ReflTransGen MovesInward

/-- Only comparisons are negated. -/
inductive Inward : Predicate → Prop where
  | compare {field : String} {condition : Condition} : Inward (.compare field condition)
  | negation {field : String} {condition : Condition} :
      Inward (.negation (.compare field condition))
  | group {connective : Connective} {children : List Predicate} :
      (∀ child ∈ children, Inward child) → Inward (.group connective children)
  | constant {value : Bool} : Inward (.constant value)

mutual

/-- The predicate, or its negation, with every negation moved inward to the comparisons. -/
def inward (negated : Bool) : Predicate → Predicate
  | .compare field condition =>
    if negated then .negation (.compare field condition) else .compare field condition
  | .group connective children =>
    .group (if negated then connective.dual else connective) (inwardAll negated children)
  | .negation child => child.inward !negated
  | .constant value => .constant (value ^^ negated)

/-- The predicates of a list, or their negations, with every negation moved inward. -/
def inwardAll (negated : Bool) : List Predicate → List Predicate
  | [] => []
  | child :: children => child.inward negated :: inwardAll negated children

end

theorem inwardAll_eq_map (negated : Bool) (children : List Predicate) :
    inwardAll negated children = children.map (inward negated) := by
  induction children with
  | nil => rfl
  | cons child children ih => rw [inwardAll, ih, List.map_cons]

/-! ## Where the rules lead -/

theorem inward_inward (predicate : Predicate) (negated : Bool) :
    Inward (predicate.inward negated) := by
  induction predicate generalizing negated with
  | compare field condition =>
      cases negated with
      | false => exact .compare
      | true => exact .negation
  | group connective children ih =>
      rw [inward, inwardAll_eq_map]
      refine .group fun moved member => ?_
      obtain ⟨child, inside, rfl⟩ := List.mem_map.mp member
      exact ih child inside negated
  | negation child ih => exact ih !negated
  | constant value => exact .constant

/-- Where only comparisons are negated, there is nothing to move. -/
theorem Inward.inward_eq {predicate : Predicate} (done : Inward predicate) :
    predicate.inward false = predicate := by
  induction done with
  | compare | negation => rfl
  | group _ ih =>
      rw [inward, inwardAll_eq_map, if_neg Bool.false_ne_true, List.map_congr_left ih, List.map_id']
  | constant => exact congrArg _ (Bool.xor_false _)

/-- A step does not change where the rules lead. -/
theorem MovesInward.inward_eq {predicate moved : Predicate} (moves : MovesInward predicate moved)
    (negated : Bool) : predicate.inward negated = moved.inward negated := by
  induction moves generalizing negated with
  | group connective children =>
      simp only [inward, inwardAll_eq_map, List.map_map]
      cases connective <;> cases negated <;> rfl
  | negation child => simp only [inward, Bool.not_not]
  | constant value => cases value <;> cases negated <;> rfl
  | inGroup connective before after _ ih =>
      simp only [inward, inwardAll_eq_map, List.map_append, List.map_cons, ih]
  | inNegation _ ih => simp only [inward, ih]

theorem LeadsInward.inward_eq {predicate other : Predicate} (leads : LeadsInward predicate other) :
    predicate.inward false = other.inward false := by
  induction leads with
  | refl => rfl
  | tail _ moves ih => rw [ih, moves.inward_eq]

/-- Where every child of a group leads somewhere, the group leads to the group of those places. -/
theorem leadsInward_group {connective : Connective} {children moved : List Predicate}
    (leads : List.Forall₂ LeadsInward children moved) (before : List Predicate) :
    LeadsInward (group connective (before ++ children)) (group connective (before ++ moved)) := by
  induction leads generalizing before with
  | nil => exact .refl
  | @cons child other children moved first _ ih =>
      have inFirst : LeadsInward (group connective (before ++ child :: children))
          (group connective (before ++ other :: children)) :=
        first.lift (fun child => group connective (before ++ child :: children))
          fun _ _ moves => .inGroup connective before children moves
      have inOthers := ih (before ++ [other])
      rw [List.append_assoc, List.append_assoc] at inOthers
      exact inFirst.trans inOthers

/-- The rules lead from a predicate and from its negation to what `inward` makes of them. -/
theorem leadsInward_inward (predicate : Predicate) :
    LeadsInward predicate (predicate.inward false) ∧
      LeadsInward (negation predicate) (predicate.inward true) := by
  induction predicate with
  | compare => exact ⟨.refl, .refl⟩
  | group connective children ih =>
      simp only [inward, inwardAll_eq_map]
      constructor
      · refine leadsInward_group ?_ []
        rw [List.forall₂_map_right_iff, List.forall₂_same]
        exact fun child member => (ih child member).1
      · refine .head (.group connective children) (leadsInward_group ?_ [])
        rw [List.forall₂_map_left_iff, List.forall₂_map_right_iff, List.forall₂_same]
        exact fun child member => (ih child member).2
  | negation child ih => exact ⟨ih.2, .head (.negation child) ih.1⟩
  | constant value =>
      simp only [inward, Bool.xor_false, Bool.xor_true]
      exact ⟨.refl, .single (.constant value)⟩

/-! ## The value on a target -/

variable {target : Target}

theorem map_xor_false (result : Except EvaluationError Bool) :
    result.map (· ^^ false) = result := by
  cases result with
  | error error => rfl
  | ok value => exact congrArg Except.ok (Bool.xor_false value)

theorem evaluate_negation (predicate : Predicate) :
    (negation predicate).evaluate target = (predicate.evaluate target).map (· ^^ true) := by
  rw [evaluate]
  cases predicate.evaluate target with
  | error error => rfl
  | ok value => exact congrArg Except.ok (Bool.xor_true value).symm

/-- A negation has a value where its child has the other one. -/
theorem evaluate_negation_eq_ok_iff {child : Predicate} {value : Bool} :
    (negation child).evaluate target = .ok value ↔ child.evaluate target = .ok !value := by
  rw [evaluate_negation]
  cases child.evaluate target with
  | error error => simp [Except.map]
  | ok found => cases found <;> cases value <;> simp [Except.map]

/-- The results of negated parts under the other connective are those of the parts, negated. -/
theorem settle_inward (connective : Connective) (negated : Bool)
    (first later : Except EvaluationError Bool) :
    (if negated then connective.dual else connective).settle
        (first.map (· ^^ negated)) (later.map (· ^^ negated)) =
      (connective.settle first later).map (· ^^ negated) := by
  cases first with
  | error error => rfl
  | ok value => cases connective <;> cases negated <;> cases value <;> cases later <;> rfl

theorem evaluateGroup_inward {connective : Connective} {negated : Bool} {children : List Predicate}
    (same : ∀ child ∈ children,
      (child.inward negated).evaluate target = (child.evaluate target).map (· ^^ negated)) :
    evaluateGroup target (if negated then connective.dual else connective)
        (inwardAll negated children) =
      (evaluateGroup target connective children).map (· ^^ negated) := by
  induction children with
  | nil => cases connective <;> cases negated <;> rfl
  | cons child children ih =>
      obtain ⟨sameChild, sameChildren⟩ := List.forall_mem_cons.mp same
      rw [inwardAll, evaluateGroup_cons, evaluateGroup_cons, sameChild, ih sameChildren,
        settle_inward]

/-- With its negations moved inward, a predicate or its negation has the same result. -/
theorem evaluate_inward_eq_map (predicate : Predicate) (negated : Bool) :
    (predicate.inward negated).evaluate target =
      (predicate.evaluate target).map (· ^^ negated) := by
  induction predicate generalizing negated with
  | compare field condition =>
      cases negated with
      | false => exact (map_xor_false _).symm
      | true => exact evaluate_negation _
  | group connective children ih =>
      exact evaluateGroup_inward fun child member => ih child member negated
  | negation child ih =>
      rw [inward, ih, evaluate_negation]
      cases child.evaluate target with
      | error error => rfl
      | ok value => cases value <;> cases negated <;> rfl
  | constant value => rfl

/-- The rules that move negations inward lead to one predicate in which only comparisons are
negated, in whatever order they are applied, and it has the same result on every target. -/
theorem evaluate_inward (predicate : Predicate) (target : Target) :
    (∀ other, LeadsInward predicate other ∧ Inward other ↔ other = predicate.inward false) ∧
      (predicate.inward false).evaluate target = predicate.evaluate target := by
  refine ⟨fun other => ⟨?only, ?leads⟩, ?value⟩
  case only =>
    rintro ⟨leads, done⟩
    rw [leads.inward_eq, done.inward_eq]
  case leads =>
    rintro rfl
    exact ⟨(leadsInward_inward predicate).1, inward_inward predicate false⟩
  case value =>
    rw [evaluate_inward_eq_map, map_xor_false]

/-- An empty group becomes the empty group of the other connective. -/
example : (negation (.group .and [.group .or [], .negation (.compare "a" (.finds .contains "b"))])
    ).inward false = .group .or [.group .and [], .compare "a" (.finds .contains "b")] := rfl

end Predicate
end RecordQuery
