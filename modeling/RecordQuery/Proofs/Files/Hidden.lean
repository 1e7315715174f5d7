import RecordQuery.Proofs.Files.Found

/-!
# Hidden entries on the way

A walk passes over a hidden entry unless the rules of a directory on the way to it keep it.  The
scopes that a walk has gathered are those of the directories that it came through and of the ones
above its start; where none of them holds a rule, just the hidden entries are left out.
-/

namespace RecordQuery
namespace Files

/-- The name is that of a hidden entry. -/
def IsHidden (name : String) : Prop := name.toList.head? = some '.'

instance (name : String) : Decidable (IsHidden name) :=
  inferInstanceAs (Decidable (name.toList.head? = some '.'))

/-! ## Scopes -/

namespace IgnoreScope

variable {scopes : List IgnoreScope} {visit : Visit} {isDirectory : Bool}

/-- No line of an ignore file belongs to the scope. -/
def IsSilent (scope : IgnoreScope) : Prop := ∀ kind, scope.rules.getD kind [] = []

/-- The scope is that of a directory on a way of names from an entry at the given path. -/
def IsOn (path : String) (entry : Entry) (names : List String) (scope : IgnoreScope) : Prop :=
  ∃ directory here, directory <+: names ∧ entry.descend? directory = some here ∧
    scope = .ofDirectory (directory.foldl extend path) false here

/-- The rules of a directory are those of its ignore files. -/
theorem exists_ignoreFile {path : String} {isAbove : Bool} {here : Entry} {kind : Nat}
    (ruled : (ofDirectory path isAbove here).rules.getD kind [] ≠ []) :
    ∃ file ∈ ignoreFileNames, ∃ text, here.child? file = some (.file text) ∧
      (ofDirectory path isAbove here).rules.getD kind [] = IgnoreRule.ofText text := by
  rw [ofDirectory, List.getD_eq_getElem?_getD, List.getElem?_map] at *
  cases listed : ignoreFileNames[kind]? with
  | none =>
      rw [listed] at ruled
      exact absurd rfl ruled
  | some file =>
      rw [listed, Option.map_some, Option.getD_some] at ruled
      split at ruled
      next text present =>
        refine ⟨file, List.mem_of_getElem? listed, text, present, ?_⟩
        rw [Option.map_some, Option.getD_some, present]
      next => exact absurd rfl ruled

/-- A hidden entry is left out unless a line of an ignore file keeps it. -/
theorem exists_verdict (hidden : IsHidden visit.name)
    (kept : leavesOut scopes visit isDirectory = false) :
    ∃ scope ∈ scopes, ∃ kind,
      IgnoreRule.verdict? (scope.rules.getD kind []) (scope.pathOf visit) isDirectory =
        some true := by
  rw [leavesOut] at kept
  split at kept
  next keeps decided =>
    obtain ⟨kind, -, decided⟩ := List.exists_of_findSome?_eq_some decided
    obtain ⟨scope, member, decided⟩ := List.exists_of_findSome?_eq_some decided
    rw [Bool.not_eq_false'] at kept
    exact ⟨scope, member, kind, kept ▸ decided⟩
  next =>
    rw [hidden, beq_self_eq_true] at kept
    cases kept

/-- Where no line is, an entry that is not hidden is kept. -/
theorem leavesOut_eq_false (silent : ∀ scope ∈ scopes, scope.IsSilent)
    (visible : ¬ IsHidden visit.name) : leavesOut scopes visit isDirectory = false := by
  have undecided : ((List.range ignoreFileNames.length).findSome? fun kind =>
      verdictOfKind? kind scopes visit isDirectory) = none := by
    refine List.findSome?_eq_none_iff.mpr fun kind _ => ?_
    refine List.findSome?_eq_none_iff.mpr fun scope member => ?_
    rw [silent scope member kind]
    rfl
  rw [leavesOut, undecided]
  exact beq_eq_false_iff_ne.mpr visible

end IgnoreScope

/-- The scopes above a place are those of the directories that lead to it. -/
theorem exists_of_mem_scopesAbove {path : String} {entry : Entry} {scopes : List IgnoreScope}
    {names : List String} {scope : IgnoreScope}
    (member : scope ∈ scopesAbove path entry scopes names) :
    scope ∈ scopes ∨ ∃ directory here, directory <+: names ∧ directory ≠ names ∧
      entry.descend? directory = some here ∧
        scope = .ofDirectory (directory.foldl extend path) true here := by
  induction names generalizing path entry scopes with
  | nil => exact .inl member
  | cons name names ih =>
      have first (inside : scope ∈ .ofDirectory path true entry :: scopes) :
          scope ∈ scopes ∨ ∃ directory here, directory <+: name :: names ∧
            directory ≠ name :: names ∧ entry.descend? directory = some here ∧
              scope = .ofDirectory (directory.foldl extend path) true here := by
        rcases List.mem_cons.mp inside with rfl | inside
        · exact .inr ⟨[], entry, List.nil_prefix, nofun, rfl, rfl⟩
        · exact .inl inside
      rw [scopesAbove] at member
      cases found : entry.child? name with
      | none =>
          rw [found] at member
          exact first member
      | some child =>
          rw [found] at member
          rcases ih member with inside | ⟨directory, here, begins, shorter, leads, rfl⟩
          · exact first inside
          · refine .inr ⟨name :: directory, here, List.cons_prefix_cons.mpr ⟨rfl, begins⟩,
              fun same => shorter (List.cons.inj same).2, ?_, rfl⟩
            rw [Entry.descend?_cons, found]
            exact leads

/-! ## Hidden entries -/

section Hidden

variable {scopes : List IgnoreScope} {visit : Visit} {entry : Entry} {names : List String}

theorem path_foldl_child (names : List String) (visit : Visit) :
    (names.foldl Visit.child visit).path = names.foldl extend visit.path := by
  induction names generalizing visit with
  | nil => rfl
  | cons name names ih => exact ih (visit.child name)

theorem place_foldl_child (names : List String) (visit : Visit) :
    (names.foldl Visit.child visit).place = names.foldl extend visit.place := by
  induction names generalizing visit with
  | nil => rfl
  | cons name names ih => exact ih (visit.child name)

theorem IgnoreScope.IsOn.cons {path name : String} {child : Entry} {scope : IgnoreScope}
    (found : entry.child? name = some child) (on : scope.IsOn (extend path name) child names) :
    scope.IsOn path entry (name :: names) := by
  obtain ⟨directory, here, begins, leads, rfl⟩ := on
  refine ⟨name :: directory, here, List.cons_prefix_cons.mpr ⟨rfl, begins⟩, ?_, rfl⟩
  rw [Entry.descend?_cons, found]
  exact leads

theorem IgnoreScope.IsOn.ofDirectory (path : String) (entry : Entry) (names : List String) :
    (IgnoreScope.ofDirectory path false entry).IsOn path entry names :=
  ⟨[], entry, List.nil_prefix, rfl, rfl⟩

theorem Finds.isDirectory (finds : Finds scopes visit entry names) :
    entry.isDirectory = !names.isEmpty := by
  cases finds <;> rfl

/-- A hidden entry on the way to a file that is found is kept by the rules of a directory. -/
theorem Finds.exists_verdict (well : entry.WellNamed) (finds : Finds scopes visit entry names)
    {before after : List String} {name : String} (split : names = before ++ name :: after)
    (hidden : IsHidden name) :
    ∃ scope : IgnoreScope, (scope ∈ scopes ∨ scope.IsOn visit.path entry before) ∧
      ∃ kind, IgnoreRule.verdict? (scope.rules.getD kind [])
        (scope.pathOf ((before ++ [name]).foldl Visit.child visit)) (!after.isEmpty) =
          some true := by
  induction finds generalizing before with
  | file => exact absurd split (by simp)
  | @directory scopes visit entries first child names member kept inside ih =>
      obtain - | ⟨-, distinct, below⟩ := well
      have found : (Entry.directory entries).child? first = some child :=
        lookup_of_mem distinct member
      have scopeOf {scope : IgnoreScope} {before : List String}
          (listed : scope ∈ .ofDirectory visit.path false (.directory entries) :: scopes) :
          scope ∈ scopes ∨ scope.IsOn visit.path (.directory entries) before := by
        rcases List.mem_cons.mp listed with rfl | listed
        · exact .inr (.ofDirectory _ _ _)
        · exact .inl listed
      cases before with
      | nil =>
          obtain ⟨rfl, rfl⟩ := List.cons.inj split
          obtain ⟨scope, listed, kind, keeps⟩ := IgnoreScope.exists_verdict hidden kept
          rw [inside.isDirectory] at keeps
          exact ⟨scope, scopeOf listed, kind, keeps⟩
      | cons other before =>
          obtain ⟨rfl, rfl⟩ := List.cons.inj split
          obtain ⟨scope, origin, kind, keeps⟩ := ih (below _ member) rfl
          refine ⟨scope, ?_, kind, keeps⟩
          rcases origin with listed | on
          · exact scopeOf listed
          · exact .inr (on.cons found)

/-- Where no rules are, a record file is found if nothing on the way to it is hidden. -/
theorem finds_of_silent {text : String} (leads : entry.descend? names = some (.file text))
    (record : isRecordName (names.getLastD visit.name) = true)
    (visible : ∀ name ∈ names, ¬ IsHidden name)
    (silent : ∀ scope : IgnoreScope, scope ∈ scopes ∨ scope.IsOn visit.path entry names →
      scope.IsSilent) : Finds scopes visit entry names := by
  induction names generalizing entry scopes visit with
  | nil =>
      obtain rfl := Option.some.inj leads
      exact .file record
  | cons name names ih =>
      obtain ⟨child, found, onward⟩ := Option.bind_eq_some_iff.mp leads
      obtain ⟨shown, visible⟩ := List.forall_mem_cons.mp visible
      cases entry with
      | file => cases found
      | directory entries =>
          have here := IgnoreScope.IsOn.ofDirectory visit.path (.directory entries) (name :: names)
          have quiet : ∀ scope ∈ .ofDirectory visit.path false (.directory entries) :: scopes,
              scope.IsSilent :=
            List.forall_mem_cons.mpr ⟨silent _ (.inr here), fun scope listed =>
              silent scope (.inl listed)⟩
          refine .directory (mem_of_child? found) (IgnoreScope.leavesOut_eq_false quiet shown)
            (ih onward ?_ visible ?_)
          · rwa [List.getLastD_cons] at record
          · rintro scope (listed | on)
            · exact quiet scope listed
            · exact silent scope (.inr (on.cons found))

end Hidden

end Files
end RecordQuery
