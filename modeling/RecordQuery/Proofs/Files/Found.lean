import RecordQuery.Proofs.Files.Addition
import RecordQuery.Proofs.Files.Below
import RecordQuery.Proofs.Files.Walk
import RecordQuery.Proofs.Sorting

/-!
# The way to a found file

A walk finds a record file through the entries on the way to it, of which none is left out.  So a
path that is found is spelled by the names that lead to its file.  Since the entries of a directory
are visited in the order of their names, the paths come in the order of their components, also where
the name of a directory is the beginning of that of a file beside it.
-/

namespace RecordQuery
namespace Files

/-- The entries of each directory have names, no two of them the same. -/
inductive Entry.WellNamed : Entry → Prop where
  | file (text : String) : WellNamed (.file text)
  | directory {entries : List (String × Entry)} (named : ∀ child ∈ entries, IsName child.1)
      (distinct : (entries.map Prod.fst).Nodup) (inside : ∀ child ∈ entries, WellNamed child.2) :
      WellNamed (.directory entries)

mutual

/-- Checks the names of the entries of each directory. -/
def Entry.hasNames : Entry → Bool
  | .file _ => true
  | .directory entries => decide (entries.map Prod.fst).Nodup && allHaveNames entries

/-- Checks the names of entries and of all entries below them. -/
def allHaveNames : List (String × Entry) → Bool
  | [] => true
  | (name, entry) :: entries => decide (IsName name) && entry.hasNames && allHaveNames entries

end

theorem allHaveNames_iff {entries : List (String × Entry)} :
    allHaveNames entries = true ↔
      ∀ child ∈ entries, IsName child.1 ∧ child.2.hasNames = true := by
  induction entries with
  | nil => simp [allHaveNames]
  | cons child entries ih =>
      rw [allHaveNames, Bool.and_eq_true, Bool.and_eq_true, decide_eq_true_iff, ih,
        List.forall_mem_cons]

theorem Entry.wellNamed_iff {entry : Entry} : entry.WellNamed ↔ entry.hasNames = true := by
  induction entry using Entry.induction with
  | file text => exact ⟨fun _ => rfl, fun _ => .file text⟩
  | directory entries ih =>
      rw [hasNames, Bool.and_eq_true, decide_eq_true_iff, allHaveNames_iff]
      constructor
      · rintro (- | ⟨named, distinct, inside⟩)
        exact ⟨distinct, fun child member =>
          ⟨named child member, (ih child member).mp (inside child member)⟩⟩
      · rintro ⟨distinct, checked⟩
        exact .directory (fun child member => (checked child member).1) distinct
          fun child member => (ih child member).mpr (checked child member).2

instance (entry : Entry) : Decidable entry.WellNamed :=
  decidable_of_iff _ Entry.wellNamed_iff.symm

/-- A walk that comes to an entry, below directories with the given scopes, finds the file that the
names lead to from there. -/
inductive Finds : List IgnoreScope → Visit → Entry → List String → Prop where
  /-- The entry is a record file itself. -/
  | file {scopes : List IgnoreScope} {visit : Visit} {text : String}
      (record : isRecordName visit.name = true) : Finds scopes visit (.file text) []
  /-- The file lies below an entry of the directory that is not left out. -/
  | directory {scopes : List IgnoreScope} {visit : Visit} {entries : List (String × Entry)}
      {name : String} {child : Entry} {names : List String} (member : (name, child) ∈ entries)
      (kept : IgnoreScope.leavesOut (.ofDirectory visit.path false (.directory entries) :: scopes)
        (visit.child name) child.isDirectory = false)
      (inside : Finds (.ofDirectory visit.path false (.directory entries) :: scopes)
        (visit.child name) child names) : Finds scopes visit (.directory entries) (name :: names)

variable {scopes : List IgnoreScope} {visit : Visit} {entry : Entry} {names : List String}

/-- A walk returns the paths of what it finds. -/
theorem mem_recordFiles_iff {path : String} :
    path ∈ recordFiles scopes visit entry ↔
      ∃ names, Finds scopes visit entry names ∧ path = names.foldl extend visit.path := by
  induction entry using Entry.induction generalizing scopes visit with
  | file text =>
      rw [recordFiles]
      constructor
      · intro member
        split at member
        next record => exact ⟨[], .file record, List.mem_singleton.mp member⟩
        next => cases member
      · rintro ⟨names, ⟨record⟩, rfl⟩
        rw [if_pos record]
        exact List.mem_singleton_self _
  | directory entries ih =>
      rw [mem_recordFiles_directory]
      constructor
      · rintro ⟨⟨name, child⟩, inside, member⟩
        rw [filesIn] at member
        split at member
        next => cases member
        next kept =>
          obtain ⟨names, finds, rfl⟩ := (ih _ inside).mp member
          exact ⟨name :: names, .directory inside (eq_false_of_ne_true kept) finds, rfl⟩
      · rintro ⟨names, finds, rfl⟩
        cases finds with
        | @directory _ _ _ name child names member kept inside =>
            refine ⟨(name, child), member, ?_⟩
            rw [filesIn, kept]
            exact (ih _ member).mpr ⟨names, inside, rfl⟩

/-! ## Files -/

theorem lookup_of_mem {entries : List (String × Entry)} {name : String} {child : Entry}
    (distinct : (entries.map Prod.fst).Nodup) (member : (name, child) ∈ entries) :
    entries.lookup name = some child := by
  obtain ⟨front, back, rfl⟩ := List.append_of_mem member
  rw [List.map_append, List.map_cons] at distinct
  have first : ∀ other ∈ front, other.1 ≠ name := by
    intro other before same
    have apart := (List.nodup_append.mp distinct).2.2
    exact apart _ (List.mem_map_of_mem before) _ List.mem_cons_self same
  exact (lookup_insert first child name).trans (if_pos rfl)

theorem mem_of_child? {entries : List (String × Entry)} {name : String} {child : Entry}
    (found : (Entry.directory entries).child? name = some child) : (name, child) ∈ entries := by
  obtain ⟨front, back, spelled, -⟩ := List.lookup_eq_some_iff.mp found
  rw [show entries = _ from spelled]
  exact List.mem_append_right _ List.mem_cons_self

theorem Entry.descend?_append (entry : Entry) (front rest : List String) :
    entry.descend? (front ++ rest) = (entry.descend? front).bind fun reached =>
      reached.descend? rest := by
  induction front generalizing entry with
  | nil => rfl
  | cons name front ih =>
      rw [List.cons_append, descend?_cons, descend?_cons, Option.bind_assoc]
      exact congrArg _ (funext ih)

theorem Entry.descend?_of_descend? {entry reached : Entry} {front : List String}
    (leads : entry.descend? front = some reached) (rest : List String) :
    entry.descend? (front ++ rest) = reached.descend? rest := by
  rw [descend?_append, leads, Option.bind_some]

theorem Entry.WellNamed.of_descend? {entry other : Entry} {names : List String}
    (well : entry.WellNamed) (leads : entry.descend? names = some other) : other.WellNamed := by
  induction names generalizing entry with
  | nil =>
      obtain rfl := Option.some.inj leads
      exact well
  | cons name names ih =>
      obtain ⟨child, found, onward⟩ := Option.bind_eq_some_iff.mp leads
      cases well with
      | file => cases found
      | directory named distinct inside => exact ih (inside _ (mem_of_child? found)) onward

namespace Finds

theorem isRecordName (finds : Finds scopes visit entry names) :
    isRecordName (names.getLastD visit.name) = true := by
  induction finds with
  | file record => exact record
  | directory member kept inside ih => rwa [List.getLastD_cons]

/-- What is found below a directory has the name of a record file at its end. -/
theorem exists_last {entries : List (String × Entry)}
    (finds : Finds scopes visit (.directory entries) names) :
    ∃ front name, names = front ++ [name] ∧ Files.isRecordName name = true := by
  have record := finds.isRecordName
  cases names using List.reverseRecOn with
  | nil => cases finds
  | append_singleton front name =>
      rw [List.getLastD_concat] at record
      exact ⟨front, name, rfl, record⟩

theorem isName (well : entry.WellNamed) (finds : Finds scopes visit entry names) :
    ∀ name ∈ names, IsName name := by
  induction finds with
  | file => exact List.forall_mem_nil _
  | directory member kept inside ih =>
      cases well with
      | directory named distinct below =>
          exact List.forall_mem_cons.mpr ⟨named _ member, ih (below _ member)⟩

/-- The names lead to a file. -/
theorem exists_file (well : entry.WellNamed) (finds : Finds scopes visit entry names) :
    ∃ text, entry.descend? names = some (.file text) := by
  induction finds with
  | file => exact ⟨_, rfl⟩
  | directory member kept inside ih =>
      cases well with
      | directory named distinct below =>
          obtain ⟨text, leads⟩ := ih (below _ member)
          refine ⟨text, ?_⟩
          rw [Entry.descend?_cons, Entry.child?_directory, lookup_of_mem distinct member]
          exact leads

end Finds

/-! ## The order of the paths -/

/-- A path that is found below an entry of a directory has the components of the directory, then the
name of the entry. -/
theorem exists_components_of_mem_filesIn {child : String × Entry} {path : String}
    (nonempty : visit.path ≠ "") (named : IsName child.1) (well : child.2.WellNamed)
    (member : path ∈ filesIn scopes visit child) :
    ∃ names, components path = components visit.path ++ child.1 :: names := by
  rw [filesIn] at member
  split at member
  · cases member
  · obtain ⟨names, finds, rfl⟩ := mem_recordFiles_iff.mp member
    have isName := List.forall_mem_cons.mpr ⟨named, finds.isName well⟩
    exact ⟨names, components_foldl_extend nonempty isName⟩

/-- Lists for the entries of a directory, one after the other by the names of the entries, are in
order if each of them is and if the names order the items of any two. -/
theorem pairwise_flatMap_sort_byName {α : Type} {r : α → α → Prop} {entries : List (String × Entry)}
    {items : String × Entry → List α} (distinct : (entries.map Prod.fst).Nodup)
    (each : ∀ child ∈ entries, (items child).Pairwise r)
    (across : ∀ child ∈ entries, ∀ other ∈ entries, child.1 < other.1 →
      ∀ a ∈ items child, ∀ b ∈ items other, r a b) :
    ((Sorting.sort byName (entries.map fun child => (child.1, items child))).flatMap
      (·.2)).Pairwise r := by
  have names : ((entries.map fun child => (child.1, items child)).map Prod.fst).Nodup := by
    rwa [List.map_map]
  have sorted := Sorting.sort_pairwise_lt (fun _ _ => decide_eq_true_iff) names
  have origin {found : String × List α} (member : found ∈ Sorting.sort byName
      (entries.map fun child => (child.1, items child))) :
      ∃ child ∈ entries, (child.1, items child) = found :=
    List.mem_map.mp ((Sorting.sort_perm _ _).mem_iff.mp member)
  refine List.pairwise_flatMap.mpr ⟨fun found member => ?_, sorted.imp_of_mem ?_⟩
  · obtain ⟨child, listed, rfl⟩ := origin member
    exact each child listed
  · intro found found' member member' before
    obtain ⟨child, listed, rfl⟩ := origin member
    obtain ⟨child', listed', rfl⟩ := origin member'
    exact across child listed child' listed' before

/-- The paths that are found below an entry come in the order of their components. -/
theorem recordFiles_pairwise (well : entry.WellNamed) (nonempty : visit.path ≠ "") :
    (recordFiles scopes visit entry).Pairwise fun a b => components a < components b := by
  induction entry using Entry.induction generalizing scopes visit with
  | file text =>
      rw [recordFiles]
      split
      · exact List.pairwise_singleton _ _
      · exact .nil
  | directory entries ih =>
      obtain - | ⟨named, distinct, inside⟩ := well
      rw [recordFiles_directory]
      refine pairwise_flatMap_sort_byName distinct (fun child listed => ?_) ?_
      · rw [filesIn]
        split
        · exact .nil
        · exact ih child listed (inside child listed) (Tree.extend_ne_empty nonempty child.1)
      · -- The names of the two entries are the first components in which the paths differ.
        intro child listed other listed' before path first path' second
        obtain ⟨names, spelled⟩ := exists_components_of_mem_filesIn nonempty
          (named child listed) (inside child listed) first
        obtain ⟨names', spelled'⟩ := exists_components_of_mem_filesIn nonempty
          (named other listed') (inside other listed') second
        rw [spelled, spelled']
        exact List.append_left_lt (List.Lex.rel before)

end Files
end RecordQuery
