import Mathlib.Logic.ExistsUnique
import RecordQuery.Proofs.CommandLine.Run
import RecordQuery.Proofs.Predicate.Failure
import RecordQuery.Proofs.Text.Lines

/-!
# What a run reports

A run prints lines, finds nothing or fails, and its status says which: a run that fails prints its
error line and nothing else, however far it came.  A query is answered only if everything it needs
was read and the predicate has an answer on every record.
-/

namespace RecordQuery
namespace CommandLine

/-- What the error line of a run begins with. -/
def errorMarks : List String :=
  ["Error: ", "Schema error: ", "Query error: ", "Evaluation error: ", "Predicate error: "]

/-- A text begins as a part of it at its start does. -/
theorem begins_append {start text : String} (rest : String) (starts : begins start text = true) :
    begins start (text ++ rest) = true := by
  rw [begins, List.isPrefixOf_iff_prefix] at starts ⊢
  rw [String.toList_append]
  exact starts.trans (List.prefix_append _ _)

/-- Every error line begins with one of the marks. -/
theorem Failure.exists_mark (failure : Failure) :
    ∃ mark ∈ errorMarks, begins mark failure.message = true := by
  cases failure with
  | noSchema => exact ⟨"Error: ", by decide, by decide⟩
  | schema error => exact ⟨"Schema error: ", by decide, begins_append _ (by decide)⟩
  | noRecords => exact ⟨"Error: ", by decide, by decide⟩
  | values error => exact ⟨"Error: ", by decide, begins_append _ (by decide)⟩
  | unreadablePredicate path failure =>
      exact ⟨"Error: ", by decide, begins_append _ (begins_append _ (begins_append _ (by decide)))⟩
  | invalidPredicate => exact ⟨"Predicate error: ", by decide, by decide⟩
  | noQuery => exact ⟨"Error: ", by decide, by decide⟩
  | syntaxError error => exact ⟨"Query error: ", by decide, begins_append _ (by decide)⟩
  | binding error => exact ⟨"Query error: ", by decide, begins_append _ (by decide)⟩
  | evaluation error => exact ⟨"Evaluation error: ", by decide, begins_append _ (by decide)⟩

/-- The text that a run writes to the standard output. -/
def Report.output (report : Report) : String := Text.ofLines report.lines

/-- How a run ends. -/
inductive Verdict where
  /-- Lines are printed. -/
  | printed
  /-- There is nothing to print. -/
  | nothing
  /-- An error ends the run. -/
  | failed
  deriving DecidableEq, Repr

/-- The status of a run that ends so. -/
def Verdict.status : Verdict → Nat
  | .printed => 0
  | .nothing => 1
  | .failed => 2

/-- The report is that of a run that ends so: the status, the standard output and the error line
all say it. -/
def Report.Shows (report : Report) (verdict : Verdict) : Prop :=
  report.status = verdict.status ∧
    match verdict with
    | .printed => report.output ≠ "" ∧ report.error = none
    | .nothing => report.output = "" ∧ report.error = none
    | .failed => report.output = "" ∧
        ∃ message, report.error = some message ∧ ∃ mark ∈ errorMarks, begins mark message = true

theorem Report.Shows.eq {report : Report} {verdict other : Verdict} (shows : report.Shows verdict)
    (also : report.Shows other) : other = verdict := by
  have same : other.status = verdict.status := also.1.symm.trans shows.1
  revert same
  cases other <;> cases verdict <;> decide

variable {tree : Files.Tree} {input : String} {options : Options}

theorem exists_shows_report (tree : Files.Tree) (input : String) (options : Options) :
    ∃ verdict, (report tree input options).Shows verdict := by
  cases runs : run tree input options with
  | error failure =>
      rw [report_of_error runs]
      exact ⟨.failed, rfl, rfl, failure.message, rfl, failure.exists_mark⟩
  | ok lines =>
      rw [report, runs]
      cases lines with
      | nil => exact ⟨.nothing, rfl, rfl, rfl⟩
      | cons line lines =>
          have printed : Text.ofLines (line :: lines) ≠ "" :=
            fun empty => List.cons_ne_nil line lines (Text.ofLines_eq_empty_iff.mp empty)
          exact ⟨.printed, rfl, printed, rfl⟩

/-! ## Queries -/

/-- A query selects records if its predicate is read, bound and defined on all of them. -/
theorem select_eq_ok_iff {schema : Schema} {records : List Record} {lines : List String} :
    select tree options schema records = .ok lines ↔
      ∃ predicate bound, ∃ holds : Record → Bool,
        readPredicate tree options = .ok predicate ∧ schema.bind predicate = .ok bound ∧
          (∀ record ∈ records, bound.evaluate record.target = .ok (holds record)) ∧
          lines = (records.filter holds).map (·.label) := by
  constructor
  · intro selects
    obtain ⟨predicate, read, selects⟩ := bind_eq_ok_iff.mp selects
    obtain ⟨bound, binds, selects⟩ := bind_eq_ok_iff.mp selects
    obtain ⟨selected, filtered, same⟩ := bind_eq_ok_iff.mp selects
    obtain ⟨holds, answers, rfl⟩ := Predicate.filter_eq_ok_iff.mp (mapError_eq_ok_iff.mp filtered)
    exact ⟨predicate, bound, holds, read, mapError_eq_ok_iff.mp binds, answers,
      (Except.ok.inj same).symm⟩
  · rintro ⟨predicate, bound, holds, read, binds, answers, rfl⟩
    have filtered := Predicate.filter_eq_ok answers
    refine bind_eq_ok_iff.mpr ⟨predicate, read, bind_eq_ok_iff.mpr ⟨bound, ?_, ?_⟩⟩
    · exact mapError_eq_ok_iff.mpr binds
    · exact bind_eq_ok_iff.mpr ⟨_, mapError_eq_ok_iff.mpr filtered, rfl⟩

/-- The lines answer the query of a run: the schema is loaded, the files are selected, the predicate
is read, bound and defined on every loaded record, and the lines are the labels of the records on
which it is true, in the order in which they are loaded. -/
def Answers (tree : Files.Tree) (input : String) (options : Options) (lines : List String) : Prop :=
  ∃ path schema files predicate bound, ∃ holds : Record → Bool,
    options.schema = some path ∧ Schema.load tree path = .ok schema ∧
    selectFiles tree input options path = .ok files ∧
    readPredicate tree options = .ok predicate ∧ schema.bind predicate = .ok bound ∧
    (∀ record ∈ loadFiles tree schema (options.records.getD "") files,
      bound.evaluate record.target = .ok (holds record)) ∧
    lines = ((loadFiles tree schema (options.records.getD "") files).filter holds).map (·.label)

/-- A run that ends without an error has read its schema and found its files. -/
theorem exists_of_run_eq_ok {lines : List String} (runs : run tree input options = .ok lines) :
    ∃ path schema files, options.schema = some path ∧ Schema.load tree path = .ok schema ∧
      selectFiles tree input options path = .ok files := by
  rw [run] at runs
  cases given : options.schema with
  | none =>
      rw [given] at runs
      cases runs
  | some path =>
      rw [given] at runs
      obtain ⟨schema, loaded, runs⟩ := bind_eq_ok_iff.mp runs
      obtain ⟨files, selected, -⟩ := bind_eq_ok_iff.mp runs
      exact ⟨path, schema, files, rfl, mapError_eq_ok_iff.mp loaded, selected⟩

/-- A run without a listing of values ends in lines exactly if they answer its query. -/
theorem run_eq_ok_iff (query : options.values = none) {lines : List String} :
    run tree input options = .ok lines ↔ Answers tree input options lines := by
  constructor
  · intro runs
    obtain ⟨path, schema, files, given, loaded, selected⟩ := exists_of_run_eq_ok runs
    have ran := run_eq given loaded selected
    simp only [query, runs] at ran
    obtain ⟨predicate, bound, holds, answered⟩ := select_eq_ok_iff.mp ran.symm
    exact ⟨path, schema, files, predicate, bound, holds, given, loaded, selected, answered⟩
  · rintro ⟨path, schema, files, predicate, bound, holds, given, loaded, selected, answered⟩
    rw [run_eq given loaded selected]
    simp only [query]
    exact select_eq_ok_iff.mpr ⟨predicate, bound, holds, answered⟩

/-- Status, standard output and error line of a run agree in exactly one of three ways.  A run for a
query does not fail exactly if there are lines that answer it, and these are the printed ones. -/
theorem report_agrees (tree : Files.Tree) (input : String) (options : Options) :
    (∃! verdict, (report tree input options).Shows verdict) ∧
      (options.values = none → ∀ lines,
        (report tree input options).status ≠ 2 ∧ (report tree input options).lines = lines ↔
          Answers tree input options lines) := by
  constructor
  · obtain ⟨verdict, shows⟩ := exists_shows_report tree input options
    exact ⟨verdict, shows, fun other also => shows.eq also⟩
  · intro query lines
    rw [← run_eq_ok_iff query]
    cases runs : run tree input options with
    | error failure =>
        rw [report_of_error runs]
        exact ⟨fun done => absurd rfl done.1, nofun⟩
    | ok printed =>
        have status : (report tree input options).status ≠ 2 := by
          rw [report, runs]
          cases printed with
          | nil => exact Nat.succ_ne_succ_iff.mpr Nat.zero_ne_one
          | cons line lines => exact Nat.zero_ne_add_one 1
        rw [Except.ok.injEq, and_iff_right status, report, runs]

/-- A run that asks for the records with one title. -/
def titleQuery : Options := { titleOptions with query := some "title = \"B\"" }

/-- A tree of three records in two files. -/
def threeTitles : Files.Tree :=
  titleTree [("a.yaml", .file "title: A\n"), ("b.yaml", .file "- title: C\n- title: B\n")]

theorem report_agrees_threeTitles :
    titleQuery.values = none ∧
      report threeTitles "" titleQuery = ⟨0, ["b.yaml#1"], none⟩ ∧
      (report threeTitles "" titleQuery).Shows .printed ∧
      Answers threeTitles "" titleQuery ["b.yaml#1"] := by
  have reported : report threeTitles "" titleQuery = ⟨0, ["b.yaml#1"], none⟩ := by decide +kernel
  obtain ⟨⟨verdict, shows, -⟩, answers⟩ := report_agrees threeTitles "" titleQuery
  have status : verdict.status = 0 := by rw [← shows.1, reported]
  refine ⟨rfl, reported, ?printed, (answers rfl ["b.yaml#1"]).mp ?done⟩
  case printed =>
    cases verdict with
    | printed => exact shows
    | nothing | failed => cases status
  case done =>
    rw [reported]
    exact ⟨by decide, rfl⟩

end CommandLine
end RecordQuery
