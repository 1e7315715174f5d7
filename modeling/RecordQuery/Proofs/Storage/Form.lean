import RecordQuery.Storage.Form
import Mathlib.Data.List.Nodup

/-!
# Stored forms read back

The arguments of a stored form are found under their keys again, whatever they are, as long as no key
is used twice.
-/

namespace RecordQuery

/-- Reading all items of a list gives their values if reading each gives its value. -/
theorem mapM_eq_some {α β : Type} {read : α → Option β} {value : α → β} {items : List α}
    (reads : ∀ item ∈ items, read item = some (value item)) :
    items.mapM read = some (items.map value) := by
  induction items with
  | nil => rfl
  | cons item items ih =>
      obtain ⟨readsItem, readsLater⟩ := List.forall_mem_cons.mp reads
      rw [List.mapM_cons, readsItem, ih readsLater]
      rfl

namespace Storage

/-- The entries of a mapping that holds the arguments under their keys. -/
def entries (arguments : List (String × Document)) : List (Document × Document) :=
  arguments.map fun argument => (.string argument.1, argument.2)

theorem form_eq (key name : String) (arguments : List (String × Document)) :
    form key name arguments = .mapping (entries ((key, .string name) :: arguments)) :=
  rfl

variable {arguments : List (String × Document)}

theorem filter_key_eq_singleton (distinct : (arguments.map (·.1)).Nodup)
    {argument : String × Document} (member : argument ∈ arguments) :
    (arguments.filter fun other => other.1 == argument.1) = [argument] := by
  induction arguments with
  | nil => cases member
  | cons first later ih =>
      rw [List.map_cons, List.nodup_cons] at distinct
      obtain ⟨fresh, distinct⟩ := distinct
      rcases List.mem_cons.mp member with rfl | inLater
      · have noOther : (later.filter fun other => other.1 == argument.1) = [] := by
          rw [List.filter_eq_nil_iff]
          intro other listed same
          exact fresh (eq_of_beq same ▸ List.mem_map_of_mem listed)
        rw [List.filter_cons, if_pos (beq_self_eq_true _), noOther]
      · have otherKey : ¬ (first.1 == argument.1) = true := fun same =>
          fresh (eq_of_beq same ▸ List.mem_map_of_mem inLater)
        rw [List.filter_cons, if_neg otherKey, ih distinct inLater]

/-- The known keys are numbered in their order. -/
theorem range_length_eq {keys : List String} (distinct : keys.Nodup) :
    List.range keys.length = keys.map keys.idxOf := by
  apply List.ext_getElem (by simp)
  intro number inRange inKeys
  simp [distinct.idxOf_getElem]

/-- The argument of a key stands alone under the number of the key. -/
theorem numbered?_idxOf {keys : List String} (keys_eq : arguments.map (·.1) = keys)
    (distinct : keys.Nodup) {argument : String × Document} (member : argument ∈ arguments) :
    numbered? (arguments.map fun other => (keys.idxOf other.1, other.2))
      (keys.idxOf argument.1) = some argument.2 := by
  have sameNumber : (arguments.filter fun other => keys.idxOf other.1 == keys.idxOf argument.1) =
      [argument] := by
    rw [← filter_key_eq_singleton (keys_eq ▸ distinct) member]
    apply List.filter_congr
    intro other inside
    have listed : other.1 ∈ keys := keys_eq ▸ List.mem_map_of_mem inside
    rw [Bool.eq_iff_iff, beq_iff_eq, beq_iff_eq, List.idxOf_inj listed]
  rw [numbered?, List.filter_map]
  simp only [Function.comp_def, sameNumber, List.map_singleton]

/-- Arguments are found under their keys. -/
theorem contents?_entries {keys : List String} (keys_eq : arguments.map (·.1) = keys)
    (distinct : keys.Nodup) :
    contents? keys (entries arguments) = some (arguments.map (·.2)) := by
  have numbers : (entries arguments).mapM (fun entry => do
      return (← keyNumber? keys entry.1, entry.2)) =
        some (arguments.map fun argument => (keys.idxOf argument.1, argument.2)) := by
    rw [entries, List.mapM_map]
    exact mapM_eq_some fun argument _ => rfl
  have range_eq : List.range keys.length = arguments.map fun argument => keys.idxOf argument.1 := by
    rw [range_length_eq distinct, ← keys_eq, List.map_map]
    rfl
  rw [contents?, numbers, range_eq]
  simp only [Option.bind_eq_bind, Option.bind_some, List.mapM_map]
  exact mapM_eq_some fun argument member => numbered?_idxOf keys_eq distinct member

/-- A form of one argument is read as its constructor and the argument. -/
theorem readPair?_form {α : Type} {choice : Document → Option α}
    {constructorKey argumentKey name : String} (apart : constructorKey ≠ argumentKey)
    {constructor : α} (chosen : choice (.string name) = some constructor) (argument : Document) :
    readPair? choice constructorKey argumentKey
      (form constructorKey name [(argumentKey, argument)]) = some (constructor, argument) := by
  have contents : contents? [constructorKey, argumentKey]
      (entries [(constructorKey, .string name), (argumentKey, argument)]) =
        some [.string name, argument] :=
    contents?_entries rfl (by simp [apart])
  rw [form_eq, readPair?, contents]
  simp [constructor?, chosen]

/-! ## Tags and depth -/

theorem isUntagged_mapping_entries :
    (Document.mapping (entries arguments)).isUntagged = true ↔
      ∀ argument ∈ arguments, argument.2.isUntagged = true := by
  induction arguments with
  | nil => simp [entries, Document.isUntagged, Document.entriesAreUntagged]
  | cons argument arguments ih =>
      rw [List.forall_mem_cons, ← ih]
      simp [entries, Document.isUntagged, Document.entriesAreUntagged]

theorem isUntagged_form {key name : String} (untagged : ∀ argument ∈ arguments,
    argument.2.isUntagged = true) : (form key name arguments).isUntagged = true := by
  rw [form_eq, isUntagged_mapping_entries, List.forall_mem_cons]
  exact ⟨rfl, untagged⟩

theorem isUntagged_sequence {items : List Document}
    (untagged : ∀ item ∈ items, item.isUntagged = true) :
    (Document.sequence items).isUntagged = true := by
  rw [Document.isUntagged]
  induction items with
  | nil => rfl
  | cons item items ih =>
      obtain ⟨first, later⟩ := List.forall_mem_cons.mp untagged
      rw [Document.itemsAreUntagged, first, ih later]
      rfl

theorem depth_le_itemsDepth {items : List Document} {item : Document} (member : item ∈ items) :
    item.depth ≤ Document.itemsDepth items := by
  induction items with
  | nil => cases member
  | cons first later ih =>
      rw [Document.itemsDepth]
      rcases List.mem_cons.mp member with rfl | inLater
      · exact Nat.le_max_left _ _
      · exact Nat.le_trans (ih inLater) (Nat.le_max_right _ _)

theorem depth_le_entriesDepth {argument : String × Document} (member : argument ∈ arguments) :
    argument.2.depth ≤ Document.entriesDepth (entries arguments) := by
  induction arguments with
  | nil => cases member
  | cons first later ih =>
      simp only [entries, List.map_cons, Document.entriesDepth]
      rcases List.mem_cons.mp member with rfl | inLater
      · omega
      · exact Nat.le_trans (ih inLater) (Nat.le_max_right _ _)

/-- A form is deeper than its arguments. -/
theorem depth_lt_form {key name : String} {argument : String × Document}
    (member : argument ∈ arguments) : argument.2.depth < (form key name arguments).depth := by
  rw [form_eq, Document.depth]
  exact Nat.lt_succ_of_le (depth_le_entriesDepth (List.mem_cons_of_mem _ member))

end Storage
end RecordQuery
