import RecordQuery.Files.Path

/-!
# A path one name further

To extend a path by a name is to put the name behind its parts; a path that ends in a slash already
has an empty part there, whose place the name takes.  In both cases the text of the path ends in the
name.
-/

namespace RecordQuery
namespace Files

/-- The text can be the name of an entry of a directory. -/
structure IsName (name : String) : Prop where
  /-- A name lies between two slashes. -/
  noSlash : '/' ∉ name.toList
  /-- A name is neither empty nor the one that stays. -/
  notIdle : ¬ (name = "" ∨ name = ".")
  /-- A name does not go up. -/
  notUp : name ≠ ".."

instance (name : String) : Decidable (IsName name) :=
  decidable_of_iff ('/' ∉ name.toList ∧ ¬ (name = "" ∨ name = ".") ∧ name ≠ "..")
    ⟨fun ⟨noSlash, notIdle, notUp⟩ => ⟨noSlash, notIdle, notUp⟩,
      fun ⟨noSlash, notIdle, notUp⟩ => ⟨noSlash, notIdle, notUp⟩⟩

variable {path name : String}

theorem pathParts_append_slash (start rest : List Char) :
    pathParts (String.ofList (start ++ '/' :: rest)) =
      pathParts (String.ofList start) ++ pathParts (String.ofList rest) := by
  simp only [pathParts, String.toList_ofList, Text.split_append_cons, List.map_append]

theorem pathParts_of_noSlash (noSlash : '/' ∉ name.toList) : pathParts name = [name] := by
  rw [pathParts, Text.split_part '/' noSlash, List.map_singleton, String.ofList_toList]

/-- The parts of an extended path end in the name, which comes after the parts of the path or in the
place of an empty one at their end. -/
theorem exists_pathParts_extend (path : String) (noSlash : '/' ∉ name.toList) :
    ∃ front, pathParts (extend path name) = front ++ [name] ∧
      (pathParts path = front ∨ pathParts path = front ++ [""]) := by
  rw [extend]
  split
  next ends =>
    obtain ⟨start, text⟩ := List.getLast?_eq_some_iff.mp (eq_of_beq ends)
    have spelled : path = String.ofList (start ++ '/' :: []) := by
      rw [← text, String.ofList_toList]
    have longer : path ++ name = String.ofList (start ++ '/' :: name.toList) := by
      rw [spelled, ← String.toList_inj]
      simp
    refine ⟨pathParts (String.ofList start), ?_, .inr ?_⟩
    · rw [longer, pathParts_append_slash, String.ofList_toList, pathParts_of_noSlash noSlash]
    · rw [spelled, pathParts_append_slash]
      rfl
  next =>
    have longer : path ++ "/" ++ name = String.ofList (path.toList ++ '/' :: name.toList) := by
      rw [← String.toList_inj]
      simp
    refine ⟨pathParts path, ?_, .inl rfl⟩
    rw [longer, pathParts_append_slash, String.ofList_toList, String.ofList_toList,
      pathParts_of_noSlash noSlash]

theorem prefix_extend (path name : String) : path.toList <+: (extend path name).toList := by
  rw [extend]
  split
  · exact String.toList_append ▸ List.prefix_append _ _
  · rw [String.toList_append, String.toList_append, List.append_assoc]
    exact List.prefix_append _ _

end Files
end RecordQuery
