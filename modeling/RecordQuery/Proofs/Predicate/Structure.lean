import RecordQuery.Predicate.Basic

/-!
# The structure of predicates

What is proved of a predicate is proved of its comparisons, or by induction with a hypothesis for
every child of a group.  A flat predicate has no group within a group of the same connective and no
group of fewer than two children; `Predicate.join` keeps predicates flat.
-/

namespace RecordQuery

/-- The values that a condition compares with. -/
def Condition.operands : Condition → List Value
  | .relates _ operand => [operand]
  | .finds _ needle => [.string needle]
  | .between lower upper => [lower, upper]

namespace Predicate

/-- Induction over predicates, with a hypothesis for every child of a group. -/
@[elab_as_elim, induction_eliminator]
theorem induction {motive : Predicate → Prop}
    (compare : ∀ field condition, motive (.compare field condition))
    (group : ∀ connective children, (∀ child ∈ children, motive child) →
      motive (.group connective children))
    (negation : ∀ child, motive child → motive (.negation child))
    (constant : ∀ value, motive (.constant value)) (predicate : Predicate) : motive predicate := by
  have nil : ∀ child ∈ ([] : List Predicate), motive child := List.forall_mem_nil _
  have cons (child : Predicate) (children : List Predicate) (holds : motive child)
      (allHold : ∀ child ∈ children, motive child) : ∀ other ∈ child :: children, motive other :=
    List.forall_mem_cons.mpr ⟨holds, allHold⟩
  exact @Predicate.rec motive (fun children => ∀ child ∈ children, motive child) compare group
    negation constant nil cons predicate

/-! ## Comparisons -/

mutual

/-- The comparisons of a predicate from left to right, each with the name of its field. -/
def comparisons : Predicate → List (String × Condition)
  | .compare field condition => [(field, condition)]
  | .group _ children => allComparisons children
  | .negation child => child.comparisons
  | .constant _ => []

/-- The comparisons of the predicates of a list. -/
def allComparisons : List Predicate → List (String × Condition)
  | [] => []
  | child :: children => child.comparisons ++ allComparisons children

end

/-- The values that the comparisons of a predicate compare with. -/
def operands (predicate : Predicate) : List Value :=
  predicate.comparisons.flatMap fun comparison => comparison.2.operands

theorem allComparisons_eq_flatMap (children : List Predicate) :
    allComparisons children = children.flatMap comparisons := by
  induction children with
  | nil => rfl
  | cons child children ih => rw [allComparisons, ih, List.flatMap_cons]

theorem mem_comparisons_group {connective : Connective} {children : List Predicate}
    {comparison : String × Condition} :
    comparison ∈ (group connective children).comparisons ↔
      ∃ child ∈ children, comparison ∈ child.comparisons := by
  rw [comparisons, allComparisons_eq_flatMap, List.mem_flatMap]

theorem mem_operands {predicate : Predicate} {operand : Value} :
    operand ∈ predicate.operands ↔
      ∃ comparison ∈ predicate.comparisons, operand ∈ comparison.2.operands :=
  List.mem_flatMap

theorem mem_operands_group {connective : Connective} {children : List Predicate}
    {operand : Value} : operand ∈ (group connective children).operands ↔
      ∃ child ∈ children, operand ∈ child.operands := by
  simp only [mem_operands, mem_comparisons_group]
  constructor
  · rintro ⟨comparison, ⟨child, listed, inside⟩, member⟩
    exact ⟨child, listed, comparison, inside, member⟩
  · rintro ⟨child, listed, comparison, inside, member⟩
    exact ⟨comparison, ⟨child, listed, inside⟩, member⟩

theorem operands_compare (field : String) (condition : Condition) :
    (compare field condition).operands = condition.operands :=
  List.append_nil _

/-! ## Flat predicates -/

/-- The predicate is not itself a group of the connective. -/
def IsPart (connective : Connective) : Predicate → Prop
  | .group connective' _ => connective' ≠ connective
  | _ => True

/-- No group has a child of its own kind or fewer than two children. -/
inductive Flat : Predicate → Prop where
  | compare {field : String} {condition : Condition} : Flat (.compare field condition)
  | group {connective : Connective} {children : List Predicate} :
      2 ≤ children.length → (∀ child ∈ children, child.IsPart connective) →
        (∀ child ∈ children, Flat child) → Flat (.group connective children)
  | negation {child : Predicate} : Flat child → Flat (.negation child)
  | constant {value : Bool} : Flat (.constant value)

theorem parts_of_isPart {connective : Connective} {predicate : Predicate}
    (part : predicate.IsPart connective) : predicate.parts connective = [predicate] := by
  cases predicate with
  | group connective' children => exact if_neg part
  | compare | negation | constant => rfl

@[simp]
theorem parts_group (connective : Connective) (children : List Predicate) :
    (group connective children).parts connective = children :=
  if_pos rfl

theorem parts_join (connective : Connective) (left right : Predicate) :
    (left.join connective right).parts connective =
      left.parts connective ++ right.parts connective :=
  parts_group connective _

/-- What a flat predicate contributes to a group is flat, is no group of that kind, and is not
nothing. -/
theorem Flat.parts {predicate : Predicate} (flat : Flat predicate) (connective : Connective) :
    1 ≤ (predicate.parts connective).length ∧
      ∀ part ∈ predicate.parts connective, part.IsPart connective ∧ Flat part := by
  by_cases part : predicate.IsPart connective
  · rw [parts_of_isPart part]
    refine ⟨Nat.le_refl _, fun other member => ?_⟩
    rw [List.mem_singleton.mp member]
    exact ⟨part, flat⟩
  · cases flat with
    | @group connective' children enough areParts areFlat =>
        have same : connective' = connective := Decidable.of_not_not part
        subst same
        rw [parts_group]
        exact ⟨by omega, fun child member => ⟨areParts child member, areFlat child member⟩⟩
    | compare => exact absurd trivial part
    | negation => exact absurd trivial part
    | constant => exact absurd trivial part

/-- Joining flat predicates gives a flat predicate. -/
theorem Flat.join {left right : Predicate} (leftFlat : Flat left) (rightFlat : Flat right)
    (connective : Connective) : Flat (left.join connective right) := by
  obtain ⟨leftSome, leftParts⟩ := leftFlat.parts connective
  obtain ⟨rightSome, rightParts⟩ := rightFlat.parts connective
  have all : ∀ part ∈ left.parts connective ++ right.parts connective,
      part.IsPart connective ∧ Flat part :=
    List.forall_mem_append.mpr ⟨leftParts, rightParts⟩
  refine .group ?_ (fun part member => (all part member).1) fun part member => (all part member).2
  rw [List.length_append]
  omega

/-- A chain of parts joined from the left is one group. -/
theorem foldl_join {connective : Connective} {later : List Predicate} (nonempty : later ≠ [])
    (areParts : ∀ part ∈ later, part.IsPart connective) (first : Predicate) :
    later.foldl (fun earlier part => earlier.join connective part) first =
      group connective (first.parts connective ++ later) := by
  induction later generalizing first with
  | nil => exact absurd rfl nonempty
  | cons part later ih =>
      have partAlone := parts_of_isPart (areParts part List.mem_cons_self)
      rw [List.foldl_cons]
      cases later with
      | nil => rw [List.foldl_nil, Predicate.join, partAlone]
      | cons next later =>
          rw [ih (List.cons_ne_nil _ _) (fun other member =>
            areParts other (List.mem_cons_of_mem _ member)), parts_join, partAlone,
            List.append_assoc, List.singleton_append]

theorem comparisons_join (connective : Connective) (left right : Predicate) :
    (left.join connective right).comparisons = left.comparisons ++ right.comparisons := by
  have contributed (predicate : Predicate) :
      (predicate.parts connective).flatMap comparisons = predicate.comparisons := by
    by_cases part : predicate.IsPart connective
    · rw [parts_of_isPart part]
      exact List.append_nil _
    · cases predicate with
      | group connective' children =>
          have same : connective' = connective := Decidable.of_not_not part
          subst same
          rw [parts_group, comparisons, allComparisons_eq_flatMap]
      | compare => exact absurd trivial part
      | negation => exact absurd trivial part
      | constant => exact absurd trivial part
  rw [Predicate.join, comparisons, allComparisons_eq_flatMap, List.flatMap_append, contributed,
    contributed]

end Predicate
end RecordQuery
