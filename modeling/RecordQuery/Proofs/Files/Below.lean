import Mathlib.Data.List.Induction
import RecordQuery.Proofs.Files.Resolution

/-!
# Paths below a directory

A path that is extended by names has the components of the path and then the names, and its label
below the path is the names with slashes between them.  So the components as well as the label of a
path below a directory tell which names lead to it.
-/

namespace RecordQuery
namespace Files

variable {path name : String} {names : List String}

theorem IsName.isIdlePart (named : IsName name) : isIdlePart name = false := by
  have notIdle := named.notIdle
  rw [not_or] at notIdle
  simp [Files.isIdlePart, notIdle]

theorem filter_isIdlePart (named : ∀ name ∈ names, IsName name) :
    names.filter (!isIdlePart ·) = names := by
  refine List.filter_eq_self.mpr fun name member => ?_
  rw [(named name member).isIdlePart]
  rfl

theorem pathOfParts_pathParts (path : String) : pathOfParts (pathParts path) = path := by
  rw [pathOfParts, pathParts, List.map_map]
  have same : (Text.split '/' path.toList).map (String.toList ∘ String.ofList) =
      Text.split '/' path.toList := List.map_id'' (fun _ => String.toList_ofList) _
  rw [same, Text.joinWith_split, String.ofList_toList]

/-- The parts of a path that is extended by names end in the names, which come after the parts of the
path or in the place of an empty one at their end. -/
theorem exists_pathParts_foldl_extend (path : String) (named : ∀ name ∈ names, IsName name) :
    ∃ front, pathParts (names.foldl extend path) = front ++ names ∧
      (pathParts path = front ∨ pathParts path = front ++ [""]) := by
  induction names using List.reverseRecOn with
  | nil => exact ⟨pathParts path, (List.append_nil _).symm, .inl rfl⟩
  | append_singleton names name ih =>
      obtain ⟨earlier, last⟩ := List.forall_mem_append.mp named
      have isName := List.forall_mem_singleton.mp last
      obtain ⟨front, spelled, start⟩ := ih earlier
      rw [List.foldl_append, List.foldl_cons, List.foldl_nil]
      obtain ⟨front', spelled', start'⟩ :=
        exists_pathParts_extend (names.foldl extend path) isName.noSlash
      rcases start' with same | shorter
      · refine ⟨front, ?_, start⟩
        rw [spelled', ← same, spelled, List.append_assoc]
      · -- An empty last part is no name, so that the path has not been extended yet.
        cases names using List.reverseRecOn with
        | nil => exact ⟨front', spelled', .inr shorter⟩
        | append_singleton names other =>
            rw [shorter, ← List.append_assoc] at spelled
            obtain ⟨-, same⟩ := List.append_inj' spelled rfl
            obtain rfl := (List.cons.inj same).1
            exact absurd (.inl rfl) (earlier "" (List.mem_append_right _ List.mem_cons_self)).notIdle

/-! ## Components -/

theorem foldl_extend_ne_empty (nonempty : path ≠ "") (names : List String) :
    names.foldl extend path ≠ "" := by
  induction names generalizing path with
  | nil => exact nonempty
  | cons name names ih => exact ih (Tree.extend_ne_empty nonempty name)

theorem components_eq (nonempty : path ≠ "") {first : String} {parts : List String}
    (spelled : pathParts path = first :: parts) :
    components path = (if first = "" then "/" else first) :: parts.filter (!isIdlePart ·) := by
  rw [components, if_neg nonempty, spelled]

/-- The parts of a path that is extended by names are the names behind parts that make up the
components of the path. -/
theorem exists_components_eq (nonempty : path ≠ "") (named : ∀ name ∈ names, IsName name) :
    ∃ first parts,
      components path = (if first = "" then "/" else first) :: parts.filter (!isIdlePart ·) ∧
        pathParts (names.foldl extend path) = first :: (parts ++ names) := by
  obtain ⟨front, spelled, start⟩ := exists_pathParts_foldl_extend path named
  cases front with
  | nil =>
      -- The parts of a path are never none, and a single empty one is that of the empty path.
      have whole := pathOfParts_pathParts path
      rcases start with none | empty
      · rw [none] at whole
        exact absurd whole.symm nonempty
      · rw [empty] at whole
        exact absurd whole.symm nonempty
  | cons first parts =>
      rw [List.cons_append] at start
      refine ⟨first, parts, ?_, spelled⟩
      rcases start with same | shorter
      · exact components_eq nonempty same
      · rw [components_eq nonempty shorter, List.filter_append]
        exact congrArg _ (List.append_nil _)

theorem components_foldl_extend (nonempty : path ≠ "") (named : ∀ name ∈ names, IsName name) :
    components (names.foldl extend path) = components path ++ names := by
  obtain ⟨first, parts, root, spelled⟩ := exists_components_eq nonempty named
  rw [components_eq (foldl_extend_ne_empty nonempty names) spelled, root, List.filter_append,
    filter_isIdlePart named, List.cons_append]

/-! ## Labels -/

end Files
end RecordQuery
