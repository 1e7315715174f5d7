import Mathlib.Logic.Relation
import RecordQuery.Proofs.Files.Resolution

/-!
# Spellings of a path

One place can be spelled in many ways: with a slash repeated or a `.` put between two slashes, with
a directory entered and left again, or behind a path of the current directory.  Respelling a path in
any of these ways, as often as one likes, does not change where it leads.
-/

namespace RecordQuery
namespace Files
namespace Tree

variable {tree : Tree} {place reached : List String} {path other front back base name : String}

/-- Where the parts of a path lead, however many there are. -/
def walk (tree : Tree) (path : String) : Except Failure (List String) :=
  tree.follow (tree.start path) (pathParts path)

/-- The path leads to a directory. -/
def LeadsToDirectory (tree : Tree) (path : String) : Prop :=
  ∃ place entries, tree.walk path = .ok place ∧
    tree.root.descend? place = some (.directory entries)

/-- The second path spells the first in one place in another way. -/
inductive Respells (tree : Tree) : String → String → Prop where
  /-- A slash is repeated, or has a `.` and a slash put behind it. -/
  | idle (front back : String) {part : String} :
      isIdlePart part = true →
        Respells tree (front ++ "/" ++ back) (front ++ "/" ++ (part ++ "/" ++ back))
  /-- A directory is entered and left again. -/
  | detour {front name : String} (back : String) :
      IsName name → tree.LeadsToDirectory (front ++ "/" ++ name) →
        Respells tree (front ++ "/" ++ back)
          (front ++ "/" ++ (name ++ "/" ++ (".." ++ "/" ++ back)))
  /-- A relative path is put behind a path of the current directory, `.` among others. -/
  | fromCurrent {base path : String} :
      base ≠ "" → tree.walk base = .ok tree.current → path ≠ "" → isAbsolute path = false →
        Respells tree path (base ++ "/" ++ path)

/-- One path spells the other in any number of places in another way. -/
def Respelled (tree : Tree) : String → String → Prop := Relation.EqvGen tree.Respells

/-! ## Where a cut path leads -/

theorem pathParts_slash (front back : String) :
    pathParts (front ++ "/" ++ back) = pathParts front ++ pathParts back := by
  have cut : front ++ "/" ++ back = String.ofList (front.toList ++ '/' :: back.toList) := by
    rw [← String.toList_inj]
    simp
  rw [cut, pathParts_append_slash, String.ofList_toList, String.ofList_toList]

theorem pathParts_ne_nil (path : String) : pathParts path ≠ [] := by
  rw [pathParts, Ne, List.map_eq_nil_iff]
  exact Text.split_ne_nil '/' path.toList

theorem slash_ne_empty (front back : String) : front ++ "/" ++ back ≠ "" := by
  rw [Ne, ← String.toList_inj]
  simp

/-- Where a path starts is settled before its first slash. -/
theorem start_slash (tree : Tree) (front back : String) :
    tree.start (front ++ "/" ++ back) = tree.start (front ++ "/") := by
  have same : isAbsolute (front ++ "/" ++ back) = isAbsolute (front ++ "/") := by
    rw [isAbsolute, isAbsolute]
    cases spelled : front.toList <;> simp [spelled]
  rw [start, start, same]

theorem start_slash_of_nonempty (tree : Tree) (nonempty : base ≠ "") :
    tree.start (base ++ "/") = tree.start base := by
  obtain ⟨c, text, spelled⟩ :=
    List.exists_cons_of_ne_nil fun empty => nonempty (String.toList_eq_nil_iff.mp empty)
  have same : isAbsolute (base ++ "/") = isAbsolute base := by
    rw [isAbsolute, isAbsolute, String.toList_append, spelled]
    rfl
  rw [start, start, same]

/-- A path leads to where its rest leads from the place of its front. -/
theorem walk_slash (tree : Tree) (front back : String) :
    tree.walk (front ++ "/" ++ back) =
      tree.follow (tree.start (front ++ "/")) (pathParts front) >>= fun place =>
        tree.follow place (pathParts back) := by
  rw [walk, start_slash, pathParts_slash, follow_append]

/-! ## Respelling -/

/-- An idle part asks for a directory, and so does the next part. -/
theorem follow_idle {part : String} (idle : isIdlePart part = true) {parts : List String}
    (more : parts ≠ []) (place : List String) :
    tree.follow place (part :: parts) = tree.follow place parts := by
  obtain ⟨next, later, rfl⟩ := List.exists_cons_of_ne_nil more
  have skipped : part = "" ∨ part = "." := by simpa [isIdlePart] using idle
  rw [follow]
  cases here : tree.root.descend? place with
  | none => exact (follow_of_none here next later).symm
  | some entry =>
      cases entry with
      | file text => exact (follow_of_file here next later).symm
      | directory entries => exact if_pos skipped

theorem noSlash_of_isIdlePart {part : String} (idle : isIdlePart part = true) :
    '/' ∉ part.toList := by
  have skipped : part = "" ∨ part = "." := by simpa [isIdlePart] using idle
  rcases skipped with rfl | rfl <;> decide

/-- A path behind the name of a directory and `..` leads to what it leads to without them. -/
theorem follow_detour (named : IsName name) {inner : List String}
    {entries : List (String × Entry)} (enters : tree.follow place [name] = .ok inner)
    (inside : tree.root.descend? inner = some (.directory entries)) (parts : List String) :
    tree.follow place (name :: ".." :: parts) = tree.follow place parts := by
  obtain ⟨rfl, -⟩ := follow_name named enters
  have split : tree.follow place ([name] ++ ".." :: parts) = _ := follow_append place [name] _
  rw [enters] at split
  refine split.trans ?_
  show tree.follow (place ++ [name]) (".." :: parts) = tree.follow place parts
  rw [follow, inside]
  show tree.follow (place ++ [name]).dropLast parts = tree.follow place parts
  rw [List.dropLast_concat]

theorem Respells.walk_eq (respells : tree.Respells path other) :
    tree.walk other = tree.walk path := by
  cases respells with
  | idle front back idle =>
      rw [walk_slash, walk_slash, pathParts_slash,
        pathParts_of_noSlash (noSlash_of_isIdlePart idle)]
      exact congrArg _ (funext fun place => follow_idle idle (pathParts_ne_nil back) place)
  | @detour front name back named directory =>
      obtain ⟨inner, entries, leads, inside⟩ := directory
      rw [walk_slash, pathParts_of_noSlash named.noSlash] at leads
      obtain ⟨place, fronts, enters⟩ := bind_eq_ok_iff.mp leads
      rw [walk_slash, walk_slash, fronts, pathParts_slash, pathParts_slash,
        pathParts_of_noSlash named.noSlash]
      exact follow_detour named enters inside (pathParts back)
  | fromCurrent nonempty current _ relative =>
      have start : tree.start path = tree.current := if_neg (Bool.eq_false_iff.mp relative)
      rw [walk_slash, start_slash_of_nonempty tree nonempty]
      rw [walk] at current
      rw [current, walk, start]
      rfl

theorem Respells.ne_empty (respells : tree.Respells path other) : path ≠ "" ∧ other ≠ "" := by
  cases respells with
  | idle => exact ⟨slash_ne_empty _ _, slash_ne_empty _ _⟩
  | detour => exact ⟨slash_ne_empty _ _, slash_ne_empty _ _⟩
  | fromCurrent _ _ nonempty _ => exact ⟨nonempty, slash_ne_empty _ _⟩

theorem Respelled.walk_eq (respelled : tree.Respelled path other) :
    tree.walk other = tree.walk path ∧ (other = "" ↔ path = "") := by
  induction respelled with
  | rel path other respells =>
      exact ⟨respells.walk_eq, iff_of_false respells.ne_empty.2 respells.ne_empty.1⟩
  | refl path => exact ⟨rfl, Iff.rfl⟩
  | symm path other _ ih => exact ⟨ih.1.symm, ih.2.symm⟩
  | trans path other third _ _ first second =>
      exact ⟨second.1.trans first.1, second.2.trans first.2⟩

/-- A path that is not too long leads to what any other spelling of it leads to. -/
theorem Respelled.resolve_eq_ok (respelled : tree.Respelled path other)
    (fits : Text.byteLength other.toList ≤ longestPath)
    (resolves : tree.resolve path = .ok place) : tree.resolve other = .ok place := by
  obtain ⟨nonempty, -, leads⟩ := resolve_eq_ok_iff.mp resolves
  obtain ⟨same, empty⟩ := respelled.walk_eq
  exact resolve_eq_ok_iff.mpr ⟨fun gone => nonempty (empty.mp gone), fits, same.trans leads⟩

end Tree
end Files
end RecordQuery
