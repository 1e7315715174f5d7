import RecordQuery.Proofs.Cursor.Query

/-!
# No character is cut

The cursor goes through boundaries of characters only, whatever the input is.  The scan of a query
has the result and the position of every problem from `Predicate.parse`, so these positions are such
boundaries as well.
-/

namespace RecordQuery
namespace Cursor

open Text RecordQuery.Parser Scan

/-- A place where an input can be cut: one within it and not within a character of it. -/
def Boundary (input : String) (place : Nat) : Prop :=
  place ≤ input.utf8ByteSize ∧ String.Pos.Raw.IsValid input ⟨place⟩

variable {α : Type} {input : String} {place : Nat} {base rest : List Char}

theorem boundary_iff :
    Boundary input place ↔ ∃ rest, rest <:+ input.toList ∧ place = placeOf input.toList rest := by
  rw [← isValid_iff_exists_placeOf]
  constructor
  · exact fun boundary => boundary.2
  · exact fun valid => ⟨valid.le_rawEndPos, valid⟩

theorem boundary_placeOf (ends : rest <:+ input.toList) :
    Boundary input (placeOf input.toList rest) :=
  boundary_iff.mpr ⟨rest, ends, rfl⟩

/-- Cutting out what is unread fails exactly where the cursor is not at a boundary. -/
theorem unread_eq_cut_iff :
    (unread input.toList place).outcome = .error .cut ↔ ¬ Boundary input place := by
  rw [unread]
  cases cut : cutAt? input.toList place with
  | none =>
      refine iff_of_true rfl fun boundary => ?_
      obtain ⟨rest, ⟨front, split⟩, rfl⟩ := boundary_iff.mp boundary
      rw [← split, placeOf_append, cutAt?_append] at cut
      cases cut
  | some pieces =>
      obtain ⟨front, rest⟩ := pieces
      obtain ⟨split, rfl⟩ := eq_append_of_cutAt? cut
      have boundary : Boundary input (byteLength front) :=
        boundary_iff.mpr ⟨rest, ⟨front, split.symm⟩, by rw [split, placeOf_append]⟩
      exact iff_of_false (fun same => by cases same) (not_not_intro boundary)

/-- A run that follows a reading goes through boundaries only. -/
theorem Follows.boundary {run : Run α} {reading : Except Fault (α × List Char)}
    (follows : Follows input.toList base run reading) (ends : base <:+ input.toList) :
    ∀ place ∈ run.visited, Boundary input place := by
  intro place member
  obtain ⟨rest, within, rfl⟩ := follows.visited place member
  exact boundary_placeOf (within.trans ends)

/-- A scan of a query ends like the reading of it. -/
theorem query_outcome (input : String) :
    (query input.toList 0).outcome = match Predicate.parse input with
      | .ok predicate => .ok (predicate, input.utf8ByteSize)
      | .error error => .error (.refused error) := by
  rw [(follows_query input.toList).outcome, Predicate.parse]
  cases readQuery input.toList with
  | ok predicate =>
      show Except.ok (predicate, byteLength input.toList) = _
      rw [byteLength_toList]
  | error fault => rfl

theorem boundary_of_parse_error {error : ParseError}
    (refused : Predicate.parse input = .error error) :
    Boundary input error.position := by
  have follows := follows_query input.toList
  rw [Predicate.parse] at refused
  cases reading : readQuery input.toList with
  | ok predicate => rw [reading] at refused; cases refused
  | error fault =>
      rw [reading] at refused follows
      obtain rfl := Except.error.inj refused
      exact boundary_placeOf follows.leaves

/-- Where the word of a constant turns out to name a field, the cursor is back where it began. -/
theorem constant_outcome (input : String) (start : Nat) (boundary : Boundary input start) :
    ∃ found after, (constant input.toList start).outcome = .ok (found, after) ∧
      Boundary input after ∧ start ≤ after ∧ (found = none → after = start) ∧
      ∀ place ∈ (constant input.toList start).visited, Boundary input place := by
  obtain ⟨rest, ends, rfl⟩ := boundary_iff.mp boundary
  have follows := tracks_constant input.toList rest ends (Nat.lt_succ_self _)
  have visited := follows.boundary ends
  rw [readConstant] at follows
  cases read : readConstant? rest with
  | none =>
      simp only [read] at follows
      exact ⟨none, _, follows.outcome, boundary, Nat.le_refl _, fun _ => rfl, visited⟩
  | some result =>
      obtain ⟨found, after⟩ := result
      simp only [read] at follows
      refine ⟨some found, _, follows.outcome, boundary_placeOf (follows.leaves.trans ends),
        placeOf_le_placeOf follows.leaves, ?_, visited⟩
      intro absent
      cases absent

/-- Whatever the input is, reading it as a query never cuts a character: the cursor only stands at
boundaries, every piece is cut out at boundaries and the loops end, so that there is the result of
`Predicate.parse`, whose problems are at boundaries.  Looking ahead behind a constant ends at a
boundary as well, and where there is no constant, at the one where it began. -/
theorem query_on_boundaries (input : String) :
    (∀ place ∈ 0 :: (query input.toList 0).visited, Boundary input place) ∧
      ((query input.toList 0).outcome = match Predicate.parse input with
        | .ok predicate => .ok (predicate, input.utf8ByteSize)
        | .error error => .error (.refused error)) ∧
      (∀ error, Predicate.parse input = .error error → Boundary input error.position) ∧
      ∀ start, Boundary input start →
        ∃ found after, (constant input.toList start).outcome = .ok (found, after) ∧
          Boundary input after ∧ start ≤ after ∧ (found = none → after = start) ∧
          ∀ place ∈ (constant input.toList start).visited, Boundary input place := by
  have whole := List.suffix_refl input.toList
  have start : Boundary input 0 := boundary_iff.mpr ⟨_, whole, (Nat.sub_self _).symm⟩
  have visited := (follows_query input.toList).boundary whole
  exact ⟨List.forall_mem_cons.mpr ⟨start, visited⟩, query_outcome input,
    fun _ => boundary_of_parse_error, constant_outcome input⟩

theorem query_on_boundaries_umlaut :
    Predicate.parse "größe ~ 1" = .error ⟨.expectedOperator, 8⟩ ∧
      Boundary "größe ~ 1" 8 ∧ Boundary "größe ~ 1" 4 ∧
      ∃ found after, (constant "größe ~ 1".toList 4).outcome = .ok (found, after) ∧
        Boundary "größe ~ 1" after ∧ 4 ≤ after ∧ (found = none → after = 4) ∧
        ∀ place ∈ (constant "größe ~ 1".toList 4).visited, Boundary "größe ~ 1" place := by
  have refused : Predicate.parse "größe ~ 1" = .error ⟨.expectedOperator, 8⟩ := by rfl
  have inside : Boundary "größe ~ 1" 4 :=
    boundary_iff.mpr ⟨"ße ~ 1".toList, ⟨"grö".toList, by decide⟩, by decide⟩
  obtain ⟨-, -, atBoundary, constant⟩ := query_on_boundaries "größe ~ 1"
  exact ⟨refused, atBoundary _ refused, inside, constant 4 inside⟩

end Cursor
end RecordQuery
