import Mathlib.Data.List.Nodup
import Mathlib.Data.String.Basic
import RecordQuery.Proofs.Listing.Counts
import RecordQuery.Proofs.Sorting
import RecordQuery.Proofs.Text.Digits

/-!
# The order of a listing

A table of counts has its entries in no particular order, and so has the list of the records.  None
of it is left in the lines: the texts of a table are all different, so there is one way to sort them,
and ranking them by their counts leaves those with equal counts sorted.
-/

namespace RecordQuery
namespace Listing

/-- What a listing comes to if the table of counts is read out in any order. -/
inductive Lists (targets : List Target) (field : String) (showCounts : Bool) :
    Except EvaluationError (List String) → Prop
  /-- The values cannot be counted. -/
  | refused {error : EvaluationError} : collect targets field = .error error →
      Lists targets field showCounts (.error error)
  /-- The lines of the counts in some order. -/
  | listed {counts entries : List (String × Nat)} : collect targets field = .ok counts →
      entries.Perm counts → Lists targets field showCounts (.ok (lines entries showCounts))

/-! ## The two comparisons -/

theorem precedes_total (a b : String × Nat) : precedes a b || precedes b a := by
  rw [Bool.or_eq_true, precedes, precedes, decide_eq_true_iff, decide_eq_true_iff]
  exact String.le_total a.1 b.1

theorem precedes_trans (a b c : String × Nat) (first : precedes a b) (second : precedes b c) :
    precedes a c := by
  rw [precedes, decide_eq_true_iff] at *
  exact String.le_trans first second

theorem outranks_total (a b : String × Nat) : outranks a b || outranks b a := by
  rw [Bool.or_eq_true, outranks, outranks, decide_eq_true_iff, decide_eq_true_iff]
  exact Nat.le_total b.2 a.2

theorem outranks_trans (a b c : String × Nat) (first : outranks a b) (second : outranks b c) :
    outranks a c := by
  rw [outranks, decide_eq_true_iff] at *
  exact Nat.le_trans second first

/-! ## Lines -/

section Lines

variable {counts entries : List (String × Nat)}

/-- There is one way to sort the entries of a table, whatever the method. -/
theorem eq_sort_precedes (unique : (counts.map Prod.fst).Nodup) (perm : entries.Perm counts)
    (ordered : entries.Pairwise fun a b => precedes a b) :
    entries = Sorting.sort precedes counts := by
  refine Sorting.eq_sort_of_pairwise precedes_total precedes_trans perm ordered ?_
  intro a first b second below above
  rw [precedes, decide_eq_true_iff] at below above
  exact List.inj_on_of_nodup_map unique first second (String.le_antisymm below above)

/-- The lines do not depend on the order in which a table is read out. -/
theorem lines_eq_of_perm (unique : (counts.map Prod.fst).Nodup) (perm : entries.Perm counts)
    (showCounts : Bool) : lines entries showCounts = lines counts showCounts := by
  have sorted := eq_sort_precedes unique ((Sorting.sort_perm precedes entries).trans perm)
    (Sorting.sort_pairwise precedes_total precedes_trans entries)
  rw [lines, lines, sorted]

/-- Sorted by their texts, the entries of a table are in strict order. -/
theorem sort_precedes_pairwise (unique : (counts.map Prod.fst).Nodup) :
    (Sorting.sort precedes counts).Pairwise fun a b => a.1 < b.1 :=
  Sorting.sort_pairwise_lt (fun _ _ => decide_eq_true_iff) unique

/-- Ranked, those that are counted more often come first, and equal counts are in the order of the
texts. -/
theorem sort_outranks_pairwise (unique : (counts.map Prod.fst).Nodup) :
    (Sorting.sort outranks (Sorting.sort precedes counts)).Pairwise fun a b =>
      b.2 < a.2 ∨ b.2 = a.2 ∧ a.1 < b.1 := by
  have ranked := Sorting.sort_stable outranks_total outranks_trans
    (sort_precedes_pairwise unique)
  refine ranked.imp fun {a b} both => ?_
  simp only [outranks, decide_eq_true_iff] at both
  rcases Nat.lt_or_eq_of_le both.1 with more | equal
  · exact .inl more
  · exact .inr ⟨equal, both.2 equal.ge⟩

end Lines

/-! ## Lines with counts -/

/-- A line with a count says which text was counted, also where that looks like such a line. -/
theorem countLine_inj {text other : String} {m n : Nat}
    (same : text ++ ": " ++ toString m = other ++ ": " ++ toString n) : text = other ∧ m = n := by
  have spelled (text : String) (count : Nat) : (text ++ ": " ++ toString count).toList =
      (text.toList ++ [':']) ++ ' ' :: (toString count).toList := by
    rw [String.toList_append, String.toList_append, List.append_assoc, List.append_assoc]
    rfl
  have parts := congrArg String.toList same
  rw [spelled, spelled] at parts
  obtain ⟨texts, numbers⟩ := Text.append_toString_inj (by decide) parts
  exact ⟨String.toList_inj.mp (List.append_cancel_right texts), numbers⟩

theorem nodup_countLines {ranked : List (String × Nat)} (distinct : ranked.Nodup) :
    (ranked.map fun (text, count) => text ++ ": " ++ toString count).Nodup :=
  distinct.map fun _ _ same => Prod.ext_iff.mpr (countLine_inj same)

/-! ## Listings -/

theorem lists_iff {targets : List Target} {field : String} {showCounts : Bool}
    {outcome : Except EvaluationError (List String)} :
    Lists targets field showCounts outcome ↔
      outcome = (collect targets field).map fun counts => lines counts showCounts := by
  constructor
  · rintro (refuses | ⟨collects, perm⟩)
    · rw [refuses]
      rfl
    · rw [collects, lines_eq_of_perm (tallies_of_collect collects).unique perm]
      rfl
  · rintro rfl
    cases outcome : collect targets field with
    | error error => exact .refused outcome
    | ok counts => exact .listed outcome (.refl counts)

/-- Behind the lines of a listing there is a table that tallies the listed texts. -/
theorem exists_tallies_of_lists {targets : List Target} {field : String} {showCounts : Bool}
    {written : List String} (lists : Lists targets field showCounts (.ok written)) :
    ∃ counts, Tallies counts (targets.filterMap (·.listed? field)) ∧
      lines counts showCounts = written := by
  obtain ⟨counts, collects, same⟩ := map_eq_ok_iff.mp (lists_iff.mp lists).symm
  exact ⟨counts, tallies_of_collect collects, same⟩

section Records

variable {records reordered : List Record} {field : String}

/-- Listing records in another order gives the same. -/
theorem collect_map_lines_of_perm (perm : reordered.Perm records) (showCounts : Bool) :
    ((collect (reordered.map Record.target) field).map fun counts => lines counts showCounts) =
      (collect (records.map Record.target) field).map fun counts => lines counts showCounts := by
  have errors (error : EvaluationError) :
      collect (reordered.map Record.target) field = .error error ↔
        collect (records.map Record.target) field = .error error := by
    simp only [collect_records_eq_error_iff, perm.mem_iff]
  cases outcome : collect (records.map Record.target) field with
  | error error => rw [(errors error).mpr outcome]
  | ok counts =>
      cases outcome' : collect (reordered.map Record.target) field with
      | error error =>
          rw [(errors error).mp outcome'] at outcome
          cases outcome
      | ok counts' =>
          have tallies := tallies_of_collect outcome
          have tallies' := (tallies_of_collect outcome').of_perm (.refl counts')
            ((perm.map Record.target).filterMap (·.listed? field)).symm
          have same := lines_eq_of_perm tallies.unique (tallies'.perm tallies) showCounts
          exact congrArg Except.ok same

/-- A listing is the same for any order of the records and for any order in which the table of counts
is read out, and so is its refusal.  Without counts its lines are the texts under which records are
listed, each once and in order.  With counts there is one line for each of these texts, which ends in
the number of records that are listed under it; the numbers fall, and where they are equal the texts
are in order. -/
theorem lists_canonical (perm : reordered.Perm records) (field : String) :
    (∀ showCounts, ∃ outcome, ∀ other,
      (Lists (records.map Record.target) field showCounts other ↔ other = outcome) ∧
      (Lists (reordered.map Record.target) field showCounts other ↔ other = outcome)) ∧
    (∀ written, Lists (records.map Record.target) field false (.ok written) →
      written.Pairwise (· < ·) ∧
      ∀ text, text ∈ written ↔ ∃ record ∈ records, record.target.listed? field = some text) ∧
    ∀ written, Lists (records.map Record.target) field true (.ok written) →
      written.Nodup ∧ ∃ ranked : List (String × Nat),
        written = ranked.map (fun (text, count) => text ++ ": " ++ toString count) ∧
        (ranked.map Prod.fst).Nodup ∧
        (∀ text count, (text, count) ∈ ranked ↔ 0 < count ∧
          count = records.countP fun record => record.target.listed? field = some text) ∧
        ranked.Pairwise fun a b => b.2 < a.2 ∨ b.2 = a.2 ∧ a.1 < b.1 := by
  refine ⟨fun showCounts => ⟨_, fun other => ⟨lists_iff, ?reordered⟩⟩, ?texts, ?counts⟩
  case reordered => rw [lists_iff, collect_map_lines_of_perm perm]
  case texts =>
    intro written lists
    obtain ⟨counts, tallies, rfl⟩ := exists_tallies_of_lists lists
    have sorted := tallies.of_perm (Sorting.sort_perm precedes counts) (.refl _)
    exact ⟨List.pairwise_map.mpr (sort_precedes_pairwise tallies.unique),
      fun text => sorted.mem_keys_iff.trans mem_listed_iff⟩
  case counts =>
    intro written lists
    obtain ⟨counts, tallies, rfl⟩ := exists_tallies_of_lists lists
    have sorted := tallies.of_perm (Sorting.sort_perm precedes counts) (.refl _)
    have ranked := sorted.of_perm (Sorting.sort_perm outranks _) (.refl _)
    refine ⟨nodup_countLines ranked.unique.of_map, _, rfl, ranked.unique, fun text count => ?_,
      sort_outranks_pairwise tallies.unique⟩
    rw [ranked.mem_iff, count_listed]

end Records

/-- A schema of a title alone. -/
def bookSchema : Schema := ⟨"Book", [⟨"title", .string, []⟩]⟩

/-- Books of three titles, one of which looks like the line of another. -/
def books : List Record :=
  ["b", "a", "a: 2", "a"].map fun title => ⟨bookSchema, "book", [("title", .string title)]⟩

theorem lists_canonical_books :
    books.reverse.Perm books ∧
      Lists (books.map Record.target) "title" true (.ok ["a: 2", "a: 2: 1", "b: 1"]) ∧
      Lists (books.reverse.map Record.target) "title" true (.ok ["a: 2", "a: 2: 1", "b: 1"]) := by
  have perm : books.reverse.Perm books := List.reverse_perm books
  have lists : Lists (books.map Record.target) "title" true
      (.ok ["a: 2", "a: 2: 1", "b: 1"]) := lists_iff.mpr (by rfl)
  obtain ⟨outcome, same⟩ := (lists_canonical perm "title").1 true
  exact ⟨perm, lists, (same _).2.mpr ((same _).1.mp lists)⟩

end Listing
end RecordQuery
