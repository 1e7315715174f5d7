import Mathlib.Logic.Relation
import RecordQuery.Proofs.Predicate.Failure

/-!
# Rearranged groups

Where every comparison of a predicate has an answer, the predicate has the value that its
connectives give to those answers, and it makes no difference where a group stops.  So the children
of groups can be put in any order and repeated, at any depth.  In general the order decides which of
the errors of the comparisons is reported, but no other error is.
-/

namespace RecordQuery

/-- The value of a group whose parts have the given values: the one that decides if any part has
it. -/
def Connective.combine (connective : Connective) (values : List Bool) : Bool :=
  if connective.decisive ∈ values then connective.decisive else !connective.decisive

theorem Connective.combine_cons (connective : Connective) (value : Bool) (values : List Bool) :
    connective.combine (value :: values) =
      if value == connective.decisive then connective.decisive else connective.combine values := by
  by_cases decides : value = connective.decisive
  · simp [combine, decides]
  · simp [combine, decides, Ne.symm decides]

theorem Connective.combine_congr (connective : Connective) {values others : List Bool}
    (same : ∀ value, value ∈ values ↔ value ∈ others) :
    connective.combine values = connective.combine others := by
  rw [combine, combine]
  simp only [same]

namespace Predicate

mutual

/-- The truth of a predicate whose comparisons have the given answers. -/
def truth (answer : String × Condition → Bool) : Predicate → Bool
  | .compare field condition => answer (field, condition)
  | .group connective children => connective.combine (truths answer children)
  | .negation child => !child.truth answer
  | .constant value => value

/-- The truth of each predicate of a list. -/
def truths (answer : String × Condition → Bool) : List Predicate → List Bool
  | [] => []
  | child :: children => child.truth answer :: truths answer children

end

theorem truths_eq_map (answer : String × Condition → Bool) (children : List Predicate) :
    truths answer children = children.map (truth answer) := by
  induction children with
  | nil => rfl
  | cons child children ih => rw [truths, ih, List.map_cons]

/-! ## Where every comparison has an answer -/

variable {target : Target} {answer : String × Condition → Bool}

/-- The target gives every comparison of the predicate the given answer. -/
def Answers (target : Target) (answer : String × Condition → Bool) (predicate : Predicate) : Prop :=
  ∀ comparison ∈ predicate.comparisons,
    (compare comparison.1 comparison.2).evaluate target = .ok (answer comparison)

theorem evaluateGroup_of_answers {connective : Connective} {children : List Predicate}
    (same : ∀ child ∈ children, child.evaluate target = .ok (child.truth answer)) :
    evaluateGroup target connective children =
      .ok (connective.combine (truths answer children)) := by
  induction children with
  | nil => rfl
  | cons child children ih =>
      obtain ⟨sameChild, sameChildren⟩ := List.forall_mem_cons.mp same
      rw [evaluateGroup, sameChild, ih sameChildren, truths, Connective.combine_cons,
        apply_ite Except.ok]
      rfl

/-- Where every comparison has an answer, the predicate is as true as they make it. -/
theorem evaluate_of_answers {predicate : Predicate} (answers : Answers target answer predicate) :
    predicate.evaluate target = .ok (predicate.truth answer) := by
  induction predicate with
  | compare field condition => exact answers (field, condition) (.head _)
  | group connective children ih =>
      refine evaluateGroup_of_answers fun child member => ih child member ?_
      exact fun comparison inside =>
        answers comparison (mem_comparisons_group.mpr ⟨child, member, inside⟩)
  | negation child ih =>
      rw [evaluate, ih answers]
      rfl
  | constant value => rfl

/-! ## Rearranging -/

/-- One group somewhere in a predicate is put in another order, or has a child repeated. -/
inductive Rearranges : Predicate → Predicate → Prop where
  | order (connective : Connective) {children others : List Predicate} :
      children.Perm others → Rearranges (.group connective children) (.group connective others)
  | repeated (connective : Connective) {child : Predicate} {children : List Predicate} :
      child ∈ children →
        Rearranges (.group connective children) (.group connective (child :: children))
  | inGroup (connective : Connective) (before after : List Predicate) {child other : Predicate} :
      Rearranges child other →
        Rearranges (.group connective (before ++ child :: after))
          (.group connective (before ++ other :: after))
  | inNegation {child other : Predicate} :
      Rearranges child other → Rearranges (.negation child) (.negation other)

/-- Groups of a predicate are rearranged in any number of places. -/
def Rearranged : Predicate → Predicate → Prop := Relation.ReflTransGen Rearranges

/-- Rearranging makes no new comparisons. -/
theorem Rearranges.comparisons_subset {predicate other : Predicate}
    (rearranges : Rearranges predicate other) : other.comparisons ⊆ predicate.comparisons := by
  induction rearranges with
  | order connective perm =>
      intro comparison member
      obtain ⟨child, listed, inside⟩ := mem_comparisons_group.mp member
      exact mem_comparisons_group.mpr ⟨child, perm.mem_iff.mpr listed, inside⟩
  | repeated connective present =>
      intro comparison member
      obtain ⟨child, listed, inside⟩ := mem_comparisons_group.mp member
      rcases List.mem_cons.mp listed with rfl | listed
      · exact mem_comparisons_group.mpr ⟨child, present, inside⟩
      · exact mem_comparisons_group.mpr ⟨child, listed, inside⟩
  | inGroup connective before after _ ih =>
      intro comparison
      simp only [comparisons, allComparisons_eq_flatMap, List.flatMap_append, List.flatMap_cons,
        List.mem_append]
      exact Or.imp_right (Or.imp_left (@ih comparison))
  | inNegation _ ih => exact ih

theorem Rearranges.truth_eq {predicate other : Predicate} (rearranges : Rearranges predicate other)
    (answer : String × Condition → Bool) : predicate.truth answer = other.truth answer := by
  induction rearranges with
  | order connective perm =>
      rw [truth, truth, truths_eq_map, truths_eq_map]
      exact connective.combine_congr fun _ => (perm.map _).mem_iff
  | @repeated connective child children present =>
      rw [truth, truth, truths, truths_eq_map]
      refine connective.combine_congr fun value => ⟨List.mem_cons_of_mem _, fun member => ?_⟩
      rcases List.mem_cons.mp member with rfl | listed
      · exact List.mem_map_of_mem present
      · exact listed
  | inGroup connective before after _ ih =>
      simp only [truth, truths_eq_map, List.map_append, List.map_cons, ih]
  | inNegation _ ih => simp only [truth, ih]

/-- A rearranged predicate makes no other comparisons, and is as true whatever they answer. -/
theorem Rearranged.preserves {predicate other : Predicate}
    (rearranged : Rearranged predicate other) :
    other.comparisons ⊆ predicate.comparisons ∧
      ∀ answer, predicate.truth answer = other.truth answer := by
  induction rearranged with
  | refl => exact ⟨fun _ member => member, fun _ => rfl⟩
  | tail _ rearranges ih =>
      obtain ⟨fewer, same⟩ := ih
      refine ⟨fun _ member => fewer (rearranges.comparisons_subset member), fun answer => ?_⟩
      rw [same, rearranges.truth_eq]

/-- Where no comparison of a predicate fails, the predicate does not fail, and neither the order of
the children of its groups nor how often they stand there makes a difference to its value.  Wherever
a predicate fails, it does so with the error of one of its comparisons. -/
theorem evaluate_rearranged (predicate : Predicate) (target : Target) :
    ((∀ comparison ∈ predicate.comparisons,
        ∃ answer, (compare comparison.1 comparison.2).evaluate target = .ok answer) →
      ∃ result, predicate.evaluate target = .ok result ∧
        ∀ other, Rearranged predicate other → other.evaluate target = .ok result) ∧
    ∀ error, predicate.evaluate target = .error error →
      ∃ comparison ∈ predicate.comparisons,
        (compare comparison.1 comparison.2).evaluate target = .error error := by
  refine ⟨fun total => ?values, fun error => exists_comparison_of_evaluate_eq_error⟩
  let answer (comparison : String × Condition) : Bool :=
    ((compare comparison.1 comparison.2).evaluate target).toOption.getD false
  have answers : Answers target answer predicate := by
    intro comparison member
    obtain ⟨found, answered⟩ := total comparison member
    simp only [answer, answered, Except.toOption, Option.getD_some]
  refine ⟨predicate.truth answer, evaluate_of_answers answers, fun other rearranged => ?_⟩
  obtain ⟨fewer, same⟩ := rearranged.preserves
  rw [same]
  exact evaluate_of_answers fun comparison member => answers comparison (fewer member)

/-- A target that holds a rating of 3 and no title. -/
def scoredTarget : Target := Target.ofList [("rating", some (.int 3)), ("title", none)]

/-- The rating is above 1. -/
def highRating : Predicate := .compare "rating" (.relates .gt (.int 1))

/-- There is an x in the title. -/
def titled : Predicate := .compare "title" (.finds .contains "x")

theorem evaluate_rearranged_highRating :
    (∃ result, (group .or [titled, .negation (.group .and [titled, highRating])]).evaluate
        scoredTarget = .ok result ∧
      (group .or [.negation (.group .and [highRating, titled, highRating]), titled]).evaluate
        scoredTarget = .ok result) ∧
    ∃ comparison ∈ (group .and [highRating, .compare "author" (.relates .eq (.int 1))]).comparisons,
      (compare comparison.1 comparison.2).evaluate scoredTarget =
        .error (.fieldNotFound "author") := by
  have total : ∀ comparison ∈
      (group .or [titled, .negation (.group .and [titled, highRating])]).comparisons,
      ∃ answer, (compare comparison.1 comparison.2).evaluate scoredTarget = .ok answer := by
    intro comparison member
    rcases member with _ | ⟨_, _ | ⟨_, _ | ⟨_, ⟨⟩⟩⟩⟩
    · exact ⟨false, rfl⟩
    · exact ⟨false, rfl⟩
    · exact ⟨true, rfl⟩
  have repeated : Rearranges (group .and [titled, highRating])
      (group .and [highRating, titled, highRating]) :=
    .repeated .and (.tail _ (.head _))
  have inside : Rearranges (group .or [titled, .negation (.group .and [titled, highRating])])
      (group .or [titled, .negation (.group .and [highRating, titled, highRating])]) :=
    .inGroup .or [titled] [] (.inNegation repeated)
  have swapped : Rearranges
      (group .or [titled, .negation (.group .and [highRating, titled, highRating])])
      (group .or [.negation (.group .and [highRating, titled, highRating]), titled]) :=
    .order .or (.swap _ _ [])
  constructor
  · obtain ⟨result, answered, same⟩ := (evaluate_rearranged _ scoredTarget).1 total
    exact ⟨result, answered, same _ (.tail (.single inside) swapped)⟩
  · exact (evaluate_rearranged _ scoredTarget).2 _ rfl

end Predicate
end RecordQuery
