import RecordQuery.Files.Tree
import RecordQuery.Proofs.Files.Path
import RecordQuery.Proofs.Result

/-!
# Where paths lead

The parts of a path are followed one after the other.  So a path that is extended by names leads, if
anywhere, to what these names lead to from the place of the path.
-/

namespace RecordQuery
namespace Files
namespace Tree

variable {tree : Tree} {place reached : List String} {path name : String}

theorem follow_append (place front rest : List String) :
    tree.follow place (front ++ rest) =
      tree.follow place front >>= fun reached => tree.follow reached rest := by
  induction front generalizing place with
  | nil => rfl
  | cons part front ih =>
      rw [List.cons_append, follow, follow]
      split
      · rfl
      · rfl
      · split
        · exact ih place
        · split
          · exact ih place.dropLast
          · split
            · rfl
            · split
              · exact ih (place ++ [part])
              · rfl

theorem follow_of_none (absent : tree.root.descend? place = none) (part : String)
    (parts : List String) : tree.follow place (part :: parts) = .error .notFound := by
  rw [follow, absent]

theorem follow_of_file {text : String} (here : tree.root.descend? place = some (.file text))
    (part : String) (parts : List String) :
    tree.follow place (part :: parts) = .error .notADirectory := by
  rw [follow, here]

/-- One part of a path leads to an entry of a directory, unless it stays or goes up. -/
theorem follow_of_directory {entries : List (String × Entry)}
    (here : tree.root.descend? place = some (.directory entries)) (part : String) :
    tree.follow place [part] =
      if part = "" ∨ part = "." then .ok place
      else if part = ".." then .ok place.dropLast
      else if longestName < Text.byteLength part.toList then .error .nameTooLong
      else if (entries.lookup part).isSome then .ok (place ++ [part])
      else .error .notFound := by
  rw [follow, here]
  rfl

/-- The place that a path is followed from. -/
def start (tree : Tree) (path : String) : List String :=
  if isAbsolute path then [] else tree.current

theorem resolve_eq (tree : Tree) (path : String) :
    tree.resolve path =
      if path = "" then .error .notFound
      else if longestPath < Text.byteLength path.toList then .error .nameTooLong
      else tree.follow (tree.start path) (pathParts path) := by
  rw [resolve, start]
  split
  · rfl
  · split
    · rfl
    · split <;> rfl

theorem resolve_eq_ok_iff :
    tree.resolve path = .ok place ↔
      path ≠ "" ∧ Text.byteLength path.toList ≤ longestPath ∧
        tree.follow (tree.start path) (pathParts path) = .ok place := by
  rw [resolve_eq]
  split
  next empty => simp [empty]
  next nonempty =>
    split
    next long => simp [Nat.not_le_of_lt long]
    next short => simp [nonempty, Nat.le_of_not_lt short]

/-- A name leads from a directory to the entry of that name. -/
theorem follow_name (named : IsName name) (follows : tree.follow place [name] = .ok reached) :
    reached = place ++ [name] ∧ tree.follow place [""] = .ok place := by
  cases here : tree.root.descend? place with
  | none =>
      rw [follow_of_none here] at follows
      cases follows
  | some entry =>
      cases entry with
      | file text =>
          rw [follow_of_file here] at follows
          cases follows
      | directory entries =>
          rw [follow_of_directory here, if_neg named.notIdle, if_neg named.notUp] at follows
          split at follows
          · cases follows
          · split at follows
            · exact ⟨(Except.ok.inj follows).symm, follow_of_directory here ""⟩
            · cases follows

theorem extend_ne_empty (nonempty : path ≠ "") (name : String) : extend path name ≠ "" := by
  intro empty
  have shorter := prefix_extend path name
  rw [empty] at shorter
  exact nonempty (String.toList_eq_nil_iff.mp (List.prefix_nil.mp shorter))

end Tree
end Files
end RecordQuery
