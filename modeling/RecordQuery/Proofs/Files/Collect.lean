import RecordQuery.Proofs.Files.Hidden

/-!
# What a walk collects

A walk of a directory returns the paths of files below it whose names have the extension of a record
file, in the order of their components.  It passes over hidden entries, except for those that a line
of an ignore file keeps.  Where no ignore file is in the directory, below it or above it, all record
files are returned to which no hidden name leads.  Only the root `-` stands for the standard input and
for no directory.
-/

namespace RecordQuery
namespace Files

/-! ## Ignore files in a tree -/

mutual

/-- The names of all entries below an entry. -/
def Entry.names : Entry → List String
  | .file _ => []
  | .directory entries => namesOf entries

/-- The names of entries and of all entries below them. -/
def namesOf : List (String × Entry) → List String
  | [] => []
  | (name, entry) :: entries => name :: entry.names ++ namesOf entries

end

theorem mem_namesOf {entries : List (String × Entry)} {child : String × Entry}
    (member : child ∈ entries) : child.1 ∈ namesOf entries ∧ child.2.names ⊆ namesOf entries := by
  induction entries with
  | nil => cases member
  | cons other entries ih =>
      rw [namesOf]
      rcases List.mem_cons.mp member with rfl | member
      · exact ⟨List.mem_append_left _ List.mem_cons_self, fun name inside =>
          List.mem_append_left _ (List.mem_cons_of_mem _ inside)⟩
      · obtain ⟨listed, below⟩ := ih member
        exact ⟨List.mem_append_right _ listed, fun name inside =>
          List.mem_append_right _ (below inside)⟩

/-- Where names lead to an entry, the last of them is its name. -/
theorem mem_names_of_descend? {entry other : Entry} {directory : List String} {name : String}
    (leads : entry.descend? (directory ++ [name]) = some other) : name ∈ entry.names := by
  induction directory generalizing entry with
  | nil =>
      obtain ⟨child, found, -⟩ := Option.bind_eq_some_iff.mp leads
      cases entry with
      | file => cases found
      | directory entries => exact (mem_namesOf (mem_of_child? found)).1
  | cons first directory ih =>
      obtain ⟨child, found, onward⟩ := Option.bind_eq_some_iff.mp leads
      cases entry with
      | file => cases found
      | directory entries => exact (mem_namesOf (mem_of_child? found)).2 (ih onward)

namespace Tree

/-- The names lead from the place to a file below it with the name of a record file. -/
structure HoldsRecordFile (tree : Tree) (place names : List String) : Prop where
  /-- The file lies below the place. -/
  below : names ≠ []
  /-- The names lead to a file and to no directory. -/
  file : ∃ text, tree.root.descend? (place ++ names) = some (.file text)
  /-- The last name is anything but nothing, then a point and one of the extensions. -/
  extension : ∃ stem, stem ≠ "" ∧ ∃ extension ∈ recordExtensions,
    names.getLast? = some (stem ++ "." ++ extension)

/-- No ignore file lies in the directory at the place, below it or above it. -/
def HasNoIgnoreFile (tree : Tree) (place : List String) : Prop :=
  ∀ directory, directory <+: place ∨ place <+: directory → ∀ file ∈ ignoreFileNames, ∀ text,
    tree.root.descend? (directory ++ [file]) ≠ some (.file text)

theorem hasNoIgnoreFile_of_names {tree : Tree} (place : List String)
    (apart : ∀ file ∈ ignoreFileNames, file ∉ tree.root.names) : tree.HasNoIgnoreFile place :=
  fun _ _ file listed _ leads => apart file listed (mem_names_of_descend? leads)

/-- The path under which the ignore files of a directory see an entry of a walk, to which the names
lead from the start of the walk.  Directories above the start see it from the root of all files. -/
def pathSeenFrom (directory : List String) (start : String) (place names : List String) : String :=
  if place.isPrefixOf directory then
    below ((directory.drop place.length).foldl extend start) (dropDot (names.foldl extend start))
  else below (directory.foldl extend "/") ((place ++ names).foldl extend "/")

/-- An ignore file of a directory on the way to an entry keeps it, by the last of its lines that match
the entry. -/
def Keeps (tree : Tree) (start : String) (place before : List String) (name : String)
    (isDirectory : Bool) : Prop :=
  ∃ directory, directory <+: place ++ before ∧ ∃ file ∈ ignoreFileNames, ∃ text,
    tree.root.descend? (directory ++ [file]) = some (.file text) ∧
      IgnoreRule.verdict? (IgnoreRule.ofText text)
        (pathSeenFrom directory start place (before ++ [name])) isDirectory = some true

section Walk

variable {tree : Tree} {start : String} {place directory : List String}
  {entries : List (String × Entry)}

/-- The visit with which a walk starts. -/
def startVisit (start : String) (place : List String) : Visit :=
  ⟨(pathParts start).getLastD "", start, place.foldl extend "/"⟩

theorem collect_eq (resolves : tree.resolve start = .ok place) {entry : Entry}
    (here : tree.root.descend? place = some entry) :
    collect tree start = if components start = ["-"] then []
      else recordFiles (scopesAbove "/" tree.root [] place) (startVisit start place) entry := by
  rw [collect, resolves]
  dsimp only
  rw [here]
  rfl

/-- The rules of a scope belong to an ignore file in its directory. -/
theorem exists_of_verdict {path : String} {isAbove : Bool} {entry : Entry}
    (leads : tree.root.descend? directory = some entry) {kind : Nat} {visit : Visit}
    {isDirectory : Bool}
    (keeps : IgnoreRule.verdict? ((IgnoreScope.ofDirectory path isAbove entry).rules.getD kind [])
      ((IgnoreScope.ofDirectory path isAbove entry).pathOf visit) isDirectory = some true) :
    ∃ file ∈ ignoreFileNames, ∃ text, tree.root.descend? (directory ++ [file]) = some (.file text) ∧
      IgnoreRule.verdict? (IgnoreRule.ofText text)
        ((IgnoreScope.ofDirectory path isAbove entry).pathOf visit) isDirectory = some true := by
  have ruled : (IgnoreScope.ofDirectory path isAbove entry).rules.getD kind [] ≠ [] := by
    intro unruled
    rw [unruled] at keeps
    cases keeps
  obtain ⟨file, listed, text, present, same⟩ := IgnoreScope.exists_ignoreFile ruled
  rw [same] at keeps
  refine ⟨file, listed, text, ?_, keeps⟩
  rw [Entry.descend?_of_descend? leads, Entry.descend?_cons, present]
  rfl

theorem pathOf_above (apart : ¬ place <+: directory) (entry : Entry) (names : List String) :
    (IgnoreScope.ofDirectory (directory.foldl extend "/") true entry).pathOf
        (names.foldl Visit.child (startVisit start place)) =
      pathSeenFrom directory start place names := by
  rw [pathSeenFrom, if_neg (List.isPrefixOf_iff_prefix.not.mpr apart), List.foldl_append]
  exact congrArg (below _) (place_foldl_child names _)

theorem pathOf_inside (entry : Entry) (names : List String) :
    (IgnoreScope.ofDirectory (directory.foldl extend start) false entry).pathOf
        (names.foldl Visit.child (startVisit start place)) =
      pathSeenFrom (place ++ directory) start place names := by
  have inside := List.isPrefixOf_iff_prefix.mpr (List.prefix_append place directory)
  rw [pathSeenFrom, if_pos inside, List.drop_left]
  exact congrArg (fun path => below _ (dropDot path)) (path_foldl_child names _)

/-- A hidden entry on the way to a file that a walk finds is kept by an ignore file. -/
theorem keeps_of_finds (well : tree.root.WellNamed)
    (here : tree.root.descend? place = some (.directory entries)) {before after : List String}
    {name : String}
    (finds : Finds (scopesAbove "/" tree.root [] place) (startVisit start place)
      (.directory entries) (before ++ name :: after)) (hidden : IsHidden name) :
    tree.Keeps start place before name (!after.isEmpty) := by
  obtain ⟨scope, origin, kind, keeps⟩ := finds.exists_verdict (well.of_descend? here) rfl hidden
  rcases origin with listed | ⟨directory, entry, begins, leads, rfl⟩
  · rcases exists_of_mem_scopesAbove listed with
      nothing | ⟨directory, entry, begins, shorter, leads, rfl⟩
    · cases nothing
    · have apart : ¬ place <+: directory := fun longer =>
        shorter (begins.eq_of_length (Nat.le_antisymm begins.length_le longer.length_le))
      have kept := exists_of_verdict leads keeps
      rw [pathOf_above apart] at kept
      exact ⟨directory, begins.trans (List.prefix_append _ _), kept⟩
  · have reached : tree.root.descend? (place ++ directory) = some entry := by
      rwa [Entry.descend?_of_descend? here]
    have begins := (List.prefix_append_right_inj place).mpr begins
    have kept := exists_of_verdict reached keeps
    rw [show (startVisit start place).path = start from rfl, pathOf_inside] at kept
    exact ⟨place ++ directory, begins, kept⟩

theorem holdsRecordFile_of_finds (well : tree.root.WellNamed)
    (here : tree.root.descend? place = some (.directory entries)) {scopes : List IgnoreScope}
    {visit : Visit} {names : List String} (finds : Finds scopes visit (.directory entries) names) :
    tree.HoldsRecordFile place names := by
  obtain ⟨text, leads⟩ := finds.exists_file (well.of_descend? here)
  obtain ⟨front, name, rfl, record⟩ := finds.exists_last
  obtain ⟨stem, nonempty, extension, listed, rfl⟩ := isRecordName_iff.mp record
  refine ⟨by simp, ⟨text, ?_⟩, stem, nonempty, extension, listed, List.getLast?_concat⟩
  rwa [Entry.descend?_of_descend? here]

/-- Without ignore files, a walk finds every record file to which no hidden name leads. -/
theorem HoldsRecordFile.finds (free : tree.HasNoIgnoreFile place)
    (here : tree.root.descend? place = some (.directory entries)) {names : List String}
    (holds : tree.HoldsRecordFile place names) (visible : ∀ name ∈ names, ¬ IsHidden name) :
    Finds (scopesAbove "/" tree.root [] place) (startVisit start place) (.directory entries)
      names := by
  obtain ⟨-, ⟨text, leads⟩, stem, nonempty, extension, listed, last⟩ := holds
  rw [Entry.descend?_of_descend? here] at leads
  have record : isRecordName (names.getLastD (startVisit start place).name) = true := by
    rw [List.getLastD_eq_getLast?, last]
    exact isRecordName_iff.mpr ⟨stem, nonempty, extension, listed, rfl⟩
  have silent {directory : List String} (near : directory <+: place ∨ place <+: directory)
      {entry : Entry} (leads : tree.root.descend? directory = some entry) (path : String)
      (isAbove : Bool) : (IgnoreScope.ofDirectory path isAbove entry).IsSilent := by
    intro kind
    by_contra ruled
    obtain ⟨file, listed, text, present, -⟩ := IgnoreScope.exists_ignoreFile ruled
    refine free directory near file listed text ?_
    rw [Entry.descend?_of_descend? leads, Entry.descend?_cons, present]
    rfl
  refine finds_of_silent leads record visible ?_
  rintro scope (listed | ⟨directory, entry, begins, leads, rfl⟩)
  · rcases exists_of_mem_scopesAbove listed with
      nothing | ⟨directory, entry, begins, -, leads, rfl⟩
    · cases nothing
    · exact silent (.inl begins) leads _ _
  · refine silent (.inr (List.prefix_append place directory)) ?_ _ _
    rwa [Entry.descend?_of_descend? here]

/-- The paths that a walk of a directory returns come in the order of their components, each once.
Each of them is spelled by the names that lead to a record file below the directory, and a hidden one
among these names is kept by an ignore file.  Where there is no ignore file, the walk returns all
record files to which no hidden name leads, unless its root stands for the standard input. -/
theorem collect_directory (well : tree.root.WellNamed) (resolves : tree.resolve start = .ok place)
    (here : tree.root.descend? place = some (.directory entries)) :
    (collect tree start).Pairwise (fun a b => components a < components b) ∧
      (∀ path ∈ collect tree start, ∃ names, tree.HoldsRecordFile place names ∧
        path = names.foldl extend start ∧ components path = components start ++ names ∧
        ∀ before name after, names = before ++ name :: after → IsHidden name →
          tree.Keeps start place before name (!after.isEmpty)) ∧
      (tree.HasNoIgnoreFile place → components start ≠ ["-"] → ∀ path,
        path ∈ collect tree start ↔ ∃ names, tree.HoldsRecordFile place names ∧
          (∀ name ∈ names, ¬ IsHidden name) ∧ path = names.foldl extend start) := by
  have nonempty := (resolve_eq_ok_iff.mp resolves).1
  have inside := well.of_descend? here
  rw [collect_eq resolves here]
  split
  next dash => exact ⟨.nil, nofun, fun _ other => absurd dash other⟩
  next =>
    refine ⟨recordFiles_pairwise inside nonempty, fun path member => ?_, fun free _ path => ?_⟩
    · obtain ⟨names, finds, rfl⟩ := mem_recordFiles_iff.mp member
      refine ⟨names, holdsRecordFile_of_finds well here finds, rfl,
        components_foldl_extend nonempty (finds.isName inside), ?_⟩
      rintro before name after rfl hidden
      exact keeps_of_finds well here finds hidden
    · rw [mem_recordFiles_iff]
      constructor
      · rintro ⟨names, finds, rfl⟩
        refine ⟨names, holdsRecordFile_of_finds well here finds, fun name member hidden => ?_, rfl⟩
        obtain ⟨before, after, rfl⟩ := List.append_of_mem member
        obtain ⟨directory, begins, file, listed, text, present, -⟩ :=
          keeps_of_finds well here finds hidden
        refine free directory ?_ file listed text present
        exact List.prefix_or_prefix_of_prefix begins (List.prefix_append place before)
      · rintro ⟨names, holds, visible, rfl⟩
        exact ⟨names, holds.finds free here visible, rfl⟩

end Walk

/-- The entries of a directory with an ignore file that keeps one of two hidden files. -/
def keptEntries : List (String × Entry) :=
  [("a.yaml", .file ""), (".modelqignore", .file "!.hidden.yaml\n"),
    ("a", .directory [("b.yaml", .file "")]), (".hidden.yaml", .file ""), (".other.yaml", .file "")]

/-- The tree with these entries in its one directory. -/
def keptTree : Tree := ⟨.directory [("r", .directory keptEntries)], []⟩

/-- The tree with a record file in a directory that has the name of the standard input. -/
def dashTree : Tree := ⟨.directory [("-", .directory [("a.yaml", .file "")])], []⟩

theorem wellNamed_keptTree : keptTree.root.WellNamed := by decide

theorem wellNamed_dashTree : dashTree.root.WellNamed := by decide

theorem hasNoIgnoreFile_dashTree : dashTree.HasNoIgnoreFile ["-"] :=
  hasNoIgnoreFile_of_names ["-"] (by decide)

theorem holdsRecordFile_dashTree : dashTree.HoldsRecordFile ["-"] ["a.yaml"] :=
  ⟨List.cons_ne_nil _ _, ⟨"", rfl⟩, "a", by decide, "yaml", by decide, rfl⟩

theorem collect_keptTree : collect keptTree "r" = ["r/.hidden.yaml", "r/a/b.yaml", "r/a.yaml"] := by
  decide +kernel

theorem collect_directory_keptTree :
    (keptTree.root.WellNamed ∧ keptTree.resolve "r" = .ok ["r"] ∧
      keptTree.root.descend? ["r"] = some (.directory keptEntries) ∧
      ["r/.hidden.yaml", "r/a/b.yaml", "r/a.yaml"].Pairwise
        (fun a b => components a < components b) ∧
      keptTree.Keeps "r" ["r"] [] ".hidden.yaml" false) ∧
    dashTree.root.WellNamed ∧ dashTree.resolve "./-" = .ok ["-"] ∧
      "./-/a.yaml" ∈ collect dashTree "./-" := by
  have resolves : keptTree.resolve "r" = .ok ["r"] := by decide
  have resolves' : dashTree.resolve "./-" = .ok ["-"] := by decide
  obtain ⟨ordered, found, -⟩ :=
    @collect_directory keptTree "r" ["r"] keptEntries wellNamed_keptTree resolves rfl
  obtain ⟨-, -, complete⟩ := collect_directory wellNamed_dashTree resolves' rfl
  rw [collect_keptTree] at ordered found
  refine ⟨⟨wellNamed_keptTree, resolves, rfl, ordered, ?_⟩, wellNamed_dashTree, resolves', ?_⟩
  · obtain ⟨names, -, -, spelled, kept⟩ := found "r/.hidden.yaml" List.mem_cons_self
    have whole : components "r/.hidden.yaml" = components "r" ++ [".hidden.yaml"] := by
      decide
    obtain rfl : [".hidden.yaml"] = names := List.append_cancel_left (whole.symm.trans spelled)
    exact kept [] ".hidden.yaml" [] rfl (by decide)
  · have other : components "./-" ≠ ["-"] := by decide
    refine (complete hasNoIgnoreFile_dashTree other _).mpr
      ⟨["a.yaml"], holdsRecordFile_dashTree, ?_, by decide⟩
    exact List.forall_mem_singleton.mpr (by decide)

/-- A walk can return a hidden file, and return nothing from a directory with a record file that is
not hidden and no ignore file. -/
theorem collect_hidden_and_dash :
    (keptTree.root.WellNamed ∧ keptTree.resolve "r" = .ok ["r"] ∧
      "r/.hidden.yaml" ∈ collect keptTree "r" ∧ IsHidden ".hidden.yaml") ∧
    dashTree.root.WellNamed ∧ dashTree.resolve "-" = .ok ["-"] ∧ dashTree.HasNoIgnoreFile ["-"] ∧
      dashTree.HoldsRecordFile ["-"] ["a.yaml"] ∧ ¬ IsHidden "a.yaml" ∧
      collect dashTree "-" = [] := by
  refine ⟨⟨wellNamed_keptTree, by decide, ?_, by decide⟩, wellNamed_dashTree,
    by decide, hasNoIgnoreFile_dashTree, holdsRecordFile_dashTree, by decide,
    by decide⟩
  rw [collect_keptTree]
  exact List.mem_cons_self

end Tree

end Files
end RecordQuery
