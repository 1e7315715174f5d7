import Mathlib.Tactic.Choose
import RecordQuery.Proofs.Predicate.Failure
import RecordQuery.Proofs.Predicate.Negation

/-!
# Filtering with joined and negated predicates

Filtering by a conjunction is filtering by its first side and then, what is left, by the second,
for the second side is asked only where the first one is true.  What a predicate leaves out is what
its negation selects.  All this holds where filtering succeeds; where it fails, it does so with the
error of the first item that the predicate has no value on, and the two ways to filter by a
conjunction may come to different items first.
-/

namespace RecordQuery

/-- The third list is made of the items of the first two, each of which keeps its order. -/
inductive Interleaves {α : Type} : List α → List α → List α → Prop where
  | nil : Interleaves [] [] []
  | left {item : α} {first second whole : List α} :
      Interleaves first second whole → Interleaves (item :: first) second (item :: whole)
  | right {item : α} {first second whole : List α} :
      Interleaves first second whole → Interleaves first (item :: second) (item :: whole)

theorem interleaves_filter {α : Type} (test : α → Bool) (items : List α) :
    Interleaves (items.filter test) (items.filter fun item => !test item) items := by
  induction items with
  | nil => exact .nil
  | cons item items ih =>
      rw [List.filter_cons, List.filter_cons]
      cases test item with
      | true => exact .left ih
      | false => exact .right ih

namespace Predicate

/-- A conjunction has a value if its first side is false, or if the first side is true and the
second has that value. -/
theorem evaluate_and_eq_ok_iff {predicate other : Predicate} {target : Target} {value : Bool} :
    (predicate.and other).evaluate target = .ok value ↔
      predicate.evaluate target = .ok false ∧ value = false ∨
        predicate.evaluate target = .ok true ∧ other.evaluate target = .ok value := by
  rw [Predicate.and, evaluate_join]
  exact Connective.settle_eq_ok_iff .and

variable {α : Type} {predicate other : Predicate} {target : α → Target} {items selected : List α}

/-- A conjunction selects what its second side selects from what its first side selects. -/
theorem filter_and_eq_ok_iff :
    (predicate.and other).filter target items = .ok selected ↔
      ∃ first, predicate.filter target items = .ok first ∧
        other.filter target first = .ok selected := by
  constructor
  · intro filtered
    obtain ⟨both, answers, rfl⟩ := filter_eq_ok_iff.mp filtered
    -- Where the first side is false the second may have no value, so nothing is said of it there.
    have sides : ∀ item ∈ items, ∃ answer, predicate.evaluate (target item) = .ok answer ∧
        (answer = true → other.evaluate (target item) = .ok (both item)) ∧
          both item = (both item && answer) := by
      intro item member
      rcases evaluate_and_eq_ok_iff.mp (answers item member) with ⟨rejects, same⟩ | ⟨selects, asks⟩
      · exact ⟨false, rejects, nofun, by rw [same, Bool.and_false]⟩
      · exact ⟨true, selects, fun _ => asks, (Bool.and_true _).symm⟩
    choose! first firstAnswers asks conjunction using sides
    have twice : items.filter both = (items.filter first).filter both := by
      rw [List.filter_filter]
      exact List.filter_congr conjunction
    refine ⟨items.filter first, filter_eq_ok firstAnswers, ?_⟩
    rw [twice]
    exact filter_eq_ok fun item member =>
      asks item (List.mem_of_mem_filter member) (List.of_mem_filter member)
  · rintro ⟨chosen, filtered, filteredAgain⟩
    obtain ⟨first, firstAnswers, rfl⟩ := filter_eq_ok_iff.mp filtered
    obtain ⟨second, secondAnswers, rfl⟩ := filter_eq_ok_iff.mp filteredAgain
    rw [List.filter_filter]
    refine filter_eq_ok fun item member => ?_
    rw [evaluate_and_eq_ok_iff, firstAnswers item member]
    cases chosen : first item with
    | false => exact .inl ⟨rfl, Bool.and_false _⟩
    | true =>
        have asked := secondAnswers item (List.mem_filter.mpr ⟨member, chosen⟩)
        exact .inr ⟨rfl, by rw [asked, Bool.and_true]⟩

/-- What a predicate does not select its negation selects. -/
theorem exists_filter_not_eq_ok (filtered : predicate.filter target items = .ok selected) :
    ∃ rest, predicate.not.filter target items = .ok rest ∧ Interleaves selected rest items ∧
      (∀ item ∈ selected, predicate.evaluate (target item) = .ok true) ∧
        ∀ item ∈ rest, predicate.evaluate (target item) = .ok false := by
  obtain ⟨answer, answers, rfl⟩ := filter_eq_ok_iff.mp filtered
  have negated : ∀ item ∈ items, predicate.not.evaluate (target item) = .ok !answer item := by
    intro item member
    rw [Predicate.not, evaluate_negation_eq_ok_iff, Bool.not_not]
    exact answers item member
  refine ⟨_, filter_eq_ok negated, interleaves_filter answer items, ?_, ?_⟩
  · intro item member
    obtain ⟨inside, accepted⟩ := List.mem_filter.mp member
    rw [answers item inside, accepted]
  · intro item member
    obtain ⟨inside, rejected⟩ := List.mem_filter.mp member
    rw [answers item inside, Bool.not_eq_eq_eq_not.mp rejected, Bool.not_true]

/-- Filtering fails with the error of the first item that the predicate has no value on. -/
theorem filter_eq_error_iff {error : EvaluationError} :
    predicate.filter target items = .error error ↔
      RefusesFirst (fun item => predicate.evaluate (target item)) items error := by
  induction items with
  | nil => exact ⟨nofun, fun refuses => (not_refusesFirst_nil refuses).elim⟩
  | cons item items ih =>
      rw [refusesFirst_cons, ← ih, filter]
      exact bind_both_eq_error_iff

/-- Filtering composes with the connectives.  Filtering by a conjunction succeeds where filtering by
its sides one after the other does, with the same items.  A predicate and its negation divide every
list that they filter.  Filtering fails if the predicate has no value on an item, and with the error
of the first one. -/
theorem filter_composes (predicate other : Predicate) (target : α → Target) (items : List α) :
    (∀ selected, (predicate.and other).filter target items = .ok selected ↔
      ∃ first, predicate.filter target items = .ok first ∧
        other.filter target first = .ok selected) ∧
    (∀ selected, predicate.filter target items = .ok selected →
      ∃ rest, predicate.not.filter target items = .ok rest ∧ Interleaves selected rest items ∧
        (∀ item ∈ selected, predicate.evaluate (target item) = .ok true) ∧
          ∀ item ∈ rest, predicate.evaluate (target item) = .ok false) ∧
    ((∃ error, predicate.filter target items = .error error) ↔
      ∃ item ∈ items, ∃ error, predicate.evaluate (target item) = .error error) ∧
    ∀ error, predicate.filter target items = .error error ↔
      RefusesFirst (fun item => predicate.evaluate (target item)) items error := by
  refine ⟨fun selected => filter_and_eq_ok_iff, fun selected => exists_filter_not_eq_ok, ?_,
    fun error => filter_eq_error_iff⟩
  simp only [filter_eq_error_iff]
  exact exists_refusesFirst_iff

/-- A target that holds a rating or has none set. -/
def ratingTarget (rating : Option Value) : Target := Target.ofList [("rating", rating)]

/-- The rating stands in the relation to the number. -/
def ratingIs (relation : Relation) (number : Int64) : Predicate :=
  .compare "rating" (.relates relation (.int number))

/-- A missing rating is among what the negation selects.  Where a text stands for a rating,
filtering fails. -/
theorem filter_composes_ratings :
    (((ratingIs .ge 2).and (ratingIs .lt 4)).filter ratingTarget
        [some (.int 1), some (.int 3), none, some (.int 5)] = .ok [some (.int 3)] ∧
      ∃ rest, (ratingIs .ge 2).not.filter ratingTarget
          [some (.int 1), some (.int 3), none, some (.int 5)] = .ok rest ∧
        Interleaves [some (.int 3), some (.int 5)] rest
          [some (.int 1), some (.int 3), none, some (.int 5)]) ∧
    (ratingIs .ge 2).filter ratingTarget [some (.int 1), some (.string "good"), some (.bool true)] =
      .error (.unsupportedComparison .string .int (.relates .ge)) := by
  obtain ⟨conjunction, negation, -, -⟩ := filter_composes (ratingIs .ge 2) (ratingIs .lt 4)
    ratingTarget [some (.int 1), some (.int 3), none, some (.int 5)]
  obtain ⟨-, -, -, failure⟩ := filter_composes (ratingIs .ge 2) (ratingIs .lt 4)
    ratingTarget [some (.int 1), some (.string "good"), some (.bool true)]
  obtain ⟨rest, filtered, interleaves, -, -⟩ := negation [some (.int 3), some (.int 5)] (by rfl)
  have selected := (conjunction [some (.int 3)]).mpr
    ⟨[some (.int 3), some (.int 5)], by rfl, by rfl⟩
  have refuses : RefusesFirst (fun item => (ratingIs .ge 2).evaluate (ratingTarget item))
      [some (.int 1), some (.string "good"), some (.bool true)]
      (.unsupportedComparison .string .int (.relates .ge)) := by
    refine ⟨[some (.int 1)], some (.string "good"), [some (.bool true)], rfl, ?_, by rfl⟩
    exact List.forall_mem_singleton.mpr ⟨false, by rfl⟩
  exact ⟨⟨selected, rest, filtered, interleaves⟩, (failure _).mpr refuses⟩

end Predicate
end RecordQuery
