import RecordQuery.Files.Walk
import RecordQuery.Proofs.Files.Path

/-!
# What a walk finds

A walk finds in a directory what it finds in each of the entries that are not left out, in the order
of their names.  Whatever it finds is spelled with the name of a record file at its end.
-/

namespace RecordQuery
namespace Files

/-- Induction over files and directories, with a hypothesis for every entry of a directory. -/
@[elab_as_elim]
theorem Entry.induction {motive : Entry → Prop} (file : ∀ text, motive (.file text))
    (directory : ∀ entries, (∀ child ∈ entries, motive child.2) → motive (.directory entries))
    (entry : Entry) : motive entry := by
  have nil : ∀ child ∈ ([] : List (String × Entry)), motive child.2 := List.forall_mem_nil _
  have cons (child : String × Entry) (entries : List (String × Entry)) (holds : motive child.2)
      (allHold : ∀ child ∈ entries, motive child.2) : ∀ other ∈ child :: entries, motive other.2 :=
    List.forall_mem_cons.mpr ⟨holds, allHold⟩
  exact @Entry.rec motive (fun entries => ∀ child ∈ entries, motive child.2)
    (fun child => motive child.2) file directory nil cons (fun _ _ holds => holds) entry

/-- The order in which the entries of a directory are visited. -/
def byName {α : Type} (a b : String × α) : Bool := a.1 ≤ b.1

/-- The record files that a walk finds in an entry of a directory. -/
def filesIn (scopes : List IgnoreScope) (parent : Visit) (child : String × Entry) : List String :=
  if IgnoreScope.leavesOut scopes (parent.child child.1) child.2.isDirectory then []
  else recordFiles scopes (parent.child child.1) child.2

variable {scopes : List IgnoreScope} {visit : Visit}

theorem childFiles_eq_map (entries : List (String × Entry)) :
    childFiles scopes visit entries =
      entries.map fun child => (child.1, filesIn scopes visit child) := by
  induction entries with
  | nil => rfl
  | cons child entries ih => rw [childFiles, ih, List.map_cons, filesIn]

/-- A walk finds in a directory what it finds in its entries, sorted by their names. -/
theorem recordFiles_directory (entries : List (String × Entry)) :
    recordFiles scopes visit (.directory entries) =
      (Sorting.sort byName (entries.map fun child => (child.1,
        filesIn (.ofDirectory visit.path false (.directory entries) :: scopes) visit child))).flatMap
          (·.2) := by
  rw [← childFiles_eq_map]
  rfl

theorem mem_recordFiles_directory {entries : List (String × Entry)} {path : String} :
    path ∈ recordFiles scopes visit (.directory entries) ↔
      ∃ child ∈ entries,
        path ∈ filesIn (.ofDirectory visit.path false (.directory entries) :: scopes) visit child := by
  rw [recordFiles_directory, List.mem_flatMap]
  constructor
  · rintro ⟨found, sorted, member⟩
    obtain ⟨child, inside, rfl⟩ := List.mem_map.mp ((Sorting.sort_perm _ _).mem_iff.mp sorted)
    exact ⟨child, inside, member⟩
  · rintro ⟨child, inside, member⟩
    exact ⟨_, (Sorting.sort_perm _ _).mem_iff.mpr (List.mem_map_of_mem inside), member⟩

/-! ## Spellings -/

/-- What follows the last point of a name is its extension only if something is before that
point. -/
theorem exists_stem_of_extension? {name extension : String}
    (found : extension? name = some extension) :
    ∃ stem, stem ≠ "" ∧ name = stem ++ "." ++ extension := by
  unfold extension? at found
  split at found
  · cases found
  · cases found
  · cases found
  next none single hidden =>
    obtain ⟨part, last, rfl⟩ := Option.map_eq_some_iff.mp found
    obtain ⟨front, parts⟩ := List.getLast?_eq_some_iff.mp last
    have some : front ≠ [] := by
      rintro rfl
      exact single part parts
    refine ⟨String.ofList (Text.joinWith '.' front), fun empty => ?_, ?_⟩
    · rcases (Text.joinWith_eq_nil_iff '.').mp (String.ofList_eq_empty_iff.mp empty) with rfl | rfl
      · exact some rfl
      · exact hidden part parts
    · have whole := Text.joinWith_split '.' name.toList
      rw [parts, Text.joinWith_append_singleton '.' some] at whole
      rw [← String.toList_inj, ← whole]
      simp

theorem extension?_eq_some {stem extension : String} (nonempty : stem ≠ "")
    (free : '.' ∉ extension.toList) : extension? (stem ++ "." ++ extension) = some extension := by
  have parts : Text.split '.' (stem ++ "." ++ extension).toList =
      Text.split '.' stem.toList ++ [extension.toList] := by
    rw [← Text.split_part '.' free, ← Text.split_append_cons, String.toList_append,
      String.toList_append, List.append_assoc]
    rfl
  have some := Text.split_ne_nil '.' stem.toList
  have notEmpty : Text.split '.' stem.toList ≠ [[]] := by
    intro empty
    have whole := Text.joinWith_split '.' stem.toList
    rw [empty] at whole
    exact nonempty (String.toList_eq_nil_iff.mp whole.symm)
  unfold extension?
  rw [parts]
  split
  next none => exact absurd (List.append_eq_nil_iff.mp none).1 some
  next part single =>
    exact absurd (List.append_inj' (show _ ++ [_] = [] ++ [part] from single) rfl).1 some
  next part hidden =>
    exact absurd (List.append_inj' (show _ ++ [_] = [[]] ++ [part] from hidden) rfl).1 notEmpty
  next => rw [List.getLast?_concat, Option.map_some, String.ofList_toList]

/-- The name of a record file is anything but nothing, then a point and one of the extensions. -/
theorem isRecordName_iff {name : String} :
    isRecordName name = true ↔
      ∃ stem, stem ≠ "" ∧ ∃ extension ∈ recordExtensions, name = stem ++ "." ++ extension := by
  have free : ∀ extension ∈ recordExtensions, '.' ∉ extension.toList := by decide
  rw [isRecordName, Option.any_eq_true]
  constructor
  · rintro ⟨extension, found, listed⟩
    obtain ⟨stem, nonempty, spelled⟩ := exists_stem_of_extension? found
    exact ⟨stem, nonempty, extension, List.contains_iff_mem.mp listed, spelled⟩
  · rintro ⟨stem, nonempty, extension, listed, rfl⟩
    exact ⟨extension, extension?_eq_some nonempty (free extension listed),
      List.contains_iff_mem.mpr listed⟩

/-- The text ends in the extension of a record file. -/
def EndsAsRecord (text : String) : Prop :=
  ∃ extension ∈ recordExtensions, extension.toList <:+ text.toList

end Files
end RecordQuery
