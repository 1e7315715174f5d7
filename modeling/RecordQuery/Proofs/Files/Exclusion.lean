import Mathlib.Data.List.Basic
import RecordQuery.Files.Exclusion
import RecordQuery.Proofs.Files.Respelling

/-!
# Excluding a file from a list of paths

A path that leads somewhere is excluded with every path that leads to the same place, and with no
other that leads anywhere, so that the spelling of neither counts.  Where one of two paths leads
nowhere, their components decide.
-/

namespace RecordQuery
namespace Files

variable {tree : Tree} {paths : List String} {path other excluded : String}
  {place reached : List String}

theorem isSameFile_of_resolves (there : tree.resolve path = .ok reached)
    (resolves : tree.resolve excluded = .ok place) :
    isSameFile tree path excluded = (reached == place) := by
  rw [isSameFile, there, resolves]

theorem isSameFile_of_lost (lost : ∀ place, tree.resolve excluded ≠ .ok place) (path : String) :
    isSameFile tree path excluded = (components path == components excluded) := by
  rw [isSameFile]
  split
  next resolves => exact absurd resolves (lost _)
  next => rfl

theorem mem_exclude_iff :
    path ∈ exclude tree paths excluded ↔
      path ∈ paths ∧ isSameFile tree path excluded = false := by
  rw [exclude, List.mem_filter, Bool.not_eq_true']

theorem count_exclude (kept : path ∈ exclude tree paths excluded) :
    (exclude tree paths excluded).count path = paths.count path := by
  rw [exclude, List.count_filter]
  exact (List.mem_filter.mp kept).2

theorem mem_exclude_iff_of_resolves (there : tree.resolve path = .ok reached)
    (resolves : tree.resolve excluded = .ok place) :
    path ∈ exclude tree paths excluded ↔ path ∈ paths ∧ reached ≠ place := by
  rw [mem_exclude_iff, isSameFile_of_resolves there resolves, beq_eq_false_iff_ne]

/-- Of a list of paths those are kept, in their order and as often as they stand there, that do not
name the excluded file, and excluding it again changes nothing.  If the excluded path leads to a
place, then of the paths that lead anywhere those are dropped that lead to this place, so that any
two spellings of it drop the same of them.  If it leads nowhere, the paths with its components are
dropped. -/
theorem exclude_outcome (tree : Tree) (paths : List String) (excluded : String) :
    ((exclude tree paths excluded).Sublist paths ∧
      (∀ path ∈ exclude tree paths excluded,
        (exclude tree paths excluded).count path = paths.count path) ∧
      exclude tree (exclude tree paths excluded) excluded = exclude tree paths excluded) ∧
    (∀ place, tree.resolve excluded = .ok place →
      (∀ path ∈ paths, ∀ reached, tree.resolve path = .ok reached →
        (path ∉ exclude tree paths excluded ↔ reached = place)) ∧
      (∀ other, tree.resolve other = .ok place →
        ∀ path reached, tree.resolve path = .ok reached →
          (path ∈ exclude tree paths other ↔ path ∈ exclude tree paths excluded)) ∧
      ∀ other, tree.Respelled excluded other →
        Text.byteLength other.toList ≤ Tree.longestPath → tree.resolve other = .ok place) ∧
    ((∀ place, tree.resolve excluded ≠ .ok place) → ∀ path ∈ paths,
      (path ∉ exclude tree paths excluded ↔ components path = components excluded)) := by
  refine ⟨⟨List.filter_sublist, fun path kept => count_exclude kept, ?_⟩, ?_, ?_⟩
  · rw [exclude, exclude, List.filter_filter]
    exact List.filter_congr fun path _ => Bool.and_self _
  · intro place resolves
    refine ⟨?_, ?_, fun other respelled fits => respelled.resolve_eq_ok fits resolves⟩
    · intro path member reached there
      rw [mem_exclude_iff_of_resolves there resolves, not_and, Decidable.not_not]
      exact forall_prop_of_true member
    · intro other resolves' path reached there
      rw [mem_exclude_iff_of_resolves there resolves, mem_exclude_iff_of_resolves there resolves']
  · intro lost path member
    rw [mem_exclude_iff, isSameFile_of_lost lost, beq_eq_false_iff_ne, not_and, Decidable.not_not]
    exact forall_prop_of_true member

/-- A schema and a record in the current directory, with an empty directory beside them. -/
def homeTree : Tree :=
  ⟨.directory [("home", .directory [("schema.yaml", .file "name: Post"),
    ("post.yaml", .file "title: a"), ("sub", .directory [])])], ["home"]⟩

/-- The schema twice and a record twice, and a path that leads nowhere. -/
def homePaths : List String :=
  ["schema.yaml", "post.yaml", "/home//schema.yaml", "post.yaml", "missing/./a.yaml"]

theorem respelled_homeTree : homeTree.Respelled "schema.yaml" "./sub/../schema.yaml" := by
  have current : homeTree.walk "." = .ok homeTree.current := by decide
  have behind : homeTree.Respells "schema.yaml" "./schema.yaml" :=
    .fromCurrent (by decide) current (by decide) rfl
  have directory : homeTree.LeadsToDirectory ("." ++ "/" ++ "sub") :=
    ⟨["home", "sub"], [], by decide, rfl⟩
  have around : homeTree.Respells "./schema.yaml" "./sub/../schema.yaml" :=
    .detour "schema.yaml" (by decide) directory
  exact .trans _ _ _ (.rel _ _ behind) (.rel _ _ around)

theorem exclude_outcome_homeTree :
    (homeTree.resolve "schema.yaml" = .ok ["home", "schema.yaml"] ∧
      "/home//schema.yaml" ∉ exclude homeTree homePaths "schema.yaml" ∧
      "post.yaml" ∈ exclude homeTree homePaths "schema.yaml" ∧
      homeTree.resolve "./sub/../schema.yaml" = .ok ["home", "schema.yaml"] ∧
      "/home//schema.yaml" ∉ exclude homeTree homePaths "./sub/../schema.yaml") ∧
    (∀ place, homeTree.resolve "missing/a.yaml" ≠ .ok place) ∧
      "missing/./a.yaml" ∉ exclude homeTree homePaths "missing/a.yaml" ∧
      "schema.yaml" ∈ exclude homeTree homePaths "missing/a.yaml" := by
  have resolves : homeTree.resolve "schema.yaml" = .ok ["home", "schema.yaml"] := by
    decide
  have doubled : homeTree.resolve "/home//schema.yaml" = .ok ["home", "schema.yaml"] := by
    decide
  have record : homeTree.resolve "post.yaml" = .ok ["home", "post.yaml"] := by decide
  have nowhere : homeTree.resolve "missing/a.yaml" = .error .notFound := by decide
  have lost : ∀ place, homeTree.resolve "missing/a.yaml" ≠ .ok place := by
    intro place
    rw [nowhere]
    exact nofun
  obtain ⟨dropped, spellings, respelled⟩ :=
    (exclude_outcome homeTree homePaths "schema.yaml").2.1 _ resolves
  have named := (exclude_outcome homeTree homePaths "missing/a.yaml").2.2 lost
  have other := respelled _ respelled_homeTree (by decide)
  have gone := (dropped "/home//schema.yaml" (by decide) _ doubled).mpr rfl
  refine ⟨⟨resolves, gone, ?_, other, ?_⟩, lost, ?_, ?_⟩
  · exact Decidable.not_not.mp (mt (dropped "post.yaml" (by decide) _ record).mp (by decide))
  · exact mt (spellings _ other _ _ doubled).mp gone
  · exact (named _ (by decide)).mpr (by decide)
  · exact Decidable.not_not.mp (mt (named _ (by decide)).mp (by decide))

end Files
end RecordQuery
