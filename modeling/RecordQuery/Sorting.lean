/-!
# Sorting

`sort` orders a list by insertion, so that sorting a concrete list is a computation by structural
recursion.  Items that are equal under the comparison stay in their order.  The result is a
permutation of the list, and it is in order if the comparison is total and transitive.
-/

namespace RecordQuery
namespace Sorting

variable {α : Type} (le : α → α → Bool)

/-- The items with one more, before the first that it is not greater than. -/
def insert (item : α) : List α → List α
  | [] => [item]
  | other :: items =>
    if le item other then item :: other :: items else other :: insert item items

/-- The items in the order of the comparison. -/
def sort : List α → List α
  | [] => []
  | item :: items => insert le item (sort items)

theorem insert_cons (item other : α) (items : List α) :
    insert le item (other :: items) =
      if le item other then item :: other :: items else other :: insert le item items := rfl

theorem insert_perm (item : α) (items : List α) : (insert le item items).Perm (item :: items) := by
  induction items with
  | nil => exact .refl _
  | cons other items ih =>
    rw [insert_cons]
    split
    · exact .refl _
    · exact (ih.cons other).trans (.swap item other items)

theorem sort_perm (items : List α) : (sort le items).Perm items := by
  induction items with
  | nil => exact .refl _
  | cons item items ih => exact (insert_perm le item _).trans (ih.cons item)

variable {le} {r : α → α → Prop}

theorem insert_pairwise (total : ∀ a b, le a b || le b a)
    (trans : ∀ a b c, le a b → le b c → le a c) {item : α} {items : List α}
    (first : ∀ other ∈ items, r item other)
    (sorted : items.Pairwise fun a b => le a b ∧ (le b a → r a b)) :
    (insert le item items).Pairwise fun a b => le a b ∧ (le b a → r a b) := by
  induction items with
  | nil => exact List.pairwise_singleton _ _
  | cons other items ih =>
    obtain ⟨least, later⟩ := List.pairwise_cons.mp sorted
    obtain ⟨firstOther, firstLater⟩ := List.forall_mem_cons.mp first
    rw [insert_cons]
    split
    next below =>
      refine List.pairwise_cons.mpr
        ⟨List.forall_mem_cons.mpr ⟨⟨below, fun _ => firstOther⟩, fun next member => ?_⟩, sorted⟩
      exact ⟨trans _ _ _ below (least next member).1, fun _ => firstLater next member⟩
    next above =>
      refine List.pairwise_cons.mpr ⟨fun next member => ?_, ih firstLater later⟩
      rcases List.mem_cons.mp ((insert_perm le item items).mem_iff.mp member) with rfl | member
      · have either := total next other
        rw [Bool.or_eq_true] at either
        exact ⟨either.resolve_left above, fun below => absurd below above⟩
      · exact least next member

/-- The result is in order, and items that are equal under the comparison keep the relation in which
they stood. -/
theorem sort_stable (total : ∀ a b, le a b || le b a) (trans : ∀ a b c, le a b → le b c → le a c)
    {items : List α} (ordered : items.Pairwise r) :
    (sort le items).Pairwise fun a b => le a b ∧ (le b a → r a b) := by
  induction items with
  | nil => exact .nil
  | cons item items ih =>
    obtain ⟨first, later⟩ := List.pairwise_cons.mp ordered
    exact insert_pairwise total trans
      (fun other member => first other ((sort_perm le items).mem_iff.mp member)) (ih later)

theorem sort_pairwise (total : ∀ a b, le a b || le b a)
    (trans : ∀ a b c, le a b → le b c → le a c) (items : List α) :
    (sort le items).Pairwise fun a b => le a b :=
  (sort_stable total trans (List.pairwise_of_forall fun _ _ => trivial)).imp And.left

end Sorting
end RecordQuery
