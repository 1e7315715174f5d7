import RecordQuery.Proofs.CommandLine.Run
import RecordQuery.Proofs.Schema.Binding

/-!
# Undeclared fields on the command line

A query that names a field which the schema does not declare is refused before any record is looked
at.  A listing of values learns of it from the records: as soon as there is one, the first of them
refuses the field, but where no record is loaded the run ends as if the field were declared and held
nothing.
-/

namespace RecordQuery

variable {tree : Files.Tree} {schema : Schema}

/-- Where there are records of a schema, a listing of an undeclared field ends in the first one. -/
theorem Listing.collect_of_undeclared {records : List Record} {field : String}
    (same : ∀ record ∈ records, record.schema = schema) (undeclared : schema.field? field = none) :
    collect (records.map Record.target) field =
      if records = [] then .ok [] else .error (.fieldNotFound field) := by
  cases records with
  | nil => rfl
  | cons record records =>
      have unknown : record.schema.field? field = none := by
        rw [same record List.mem_cons_self, undeclared]
      rw [collect, List.map_cons, List.foldlM_cons, Record.target_of_undeclared unknown]
      rfl

/-- A predicate that compares an undeclared field is not bound. -/
theorem Schema.exists_bind_eq_error {predicate : Predicate} {comparison : String × Condition}
    (member : comparison ∈ predicate.comparisons) (undeclared : schema.field? comparison.1 = none) :
    ∃ error, schema.bind predicate = .error error := by
  cases binds : schema.bind predicate with
  | error error => exact ⟨error, rfl⟩
  | ok bound =>
      obtain ⟨field, declared⟩ := declared_of_bind binds comparison member
      rw [undeclared] at declared
      cases declared

namespace CommandLine

section Report

variable {input path : String} {options : Options} {files : List String}

/-- What a listing of an undeclared field leaves behind depends on whether there are records. -/
theorem report_of_undeclared_values {field : String} (given : options.schema = some path)
    (loaded : Schema.load tree path = .ok schema)
    (selected : selectFiles tree input options path = .ok files)
    (listing : options.values = some field) (undeclared : schema.field? field = none) :
    report tree input options =
      if loadFiles tree schema (options.records.getD "") files = [] then ⟨1, [], none⟩
      else ⟨2, [], some ("Error: field not found: " ++ field)⟩ := by
  have ran := run_eq given loaded selected
  simp only [listing] at ran
  rw [Listing.collect_of_undeclared
    (fun record member => (isLoaded_of_loadFiles record member).schema_eq) undeclared] at ran
  split at ran
  · rename_i empty
    have nothing : run tree input options = .ok [] := by
      rw [ran]
      cases options.count <;> rfl
    rw [report, nothing, if_pos empty]
    rfl
  · rename_i records
    rw [report_of_error ran, if_neg records]
    rfl

theorem report_of_undeclared_query {predicate : Predicate} {comparison : String × Condition}
    (given : options.schema = some path) (loaded : Schema.load tree path = .ok schema)
    (selected : selectFiles tree input options path = .ok files) (query : options.values = none)
    (read : readPredicate tree options = .ok predicate)
    (member : comparison ∈ predicate.comparisons)
    (undeclared : schema.field? comparison.1 = none) :
    ∃ error, schema.bind predicate = .error error ∧
      report tree input options = ⟨2, [], some ("Query error: " ++ error.message)⟩ := by
  obtain ⟨error, refused⟩ := Schema.exists_bind_eq_error member undeclared
  have ran := run_eq given loaded selected
  simp only [query] at ran
  have fails : run tree input options = .error (.binding error) := by
    rw [ran, select, read]
    exact bind_eq_error_iff.mpr (.inr ⟨predicate, rfl, by rw [refused]; rfl⟩)
  exact ⟨error, refused, report_of_error fails⟩

/-- A run that names an undeclared field in its predicate ends with an error line, whatever the
records.  A run that lists the values of one does so if a record is loaded, and otherwise it ends
without a line, as a listing of a declared field that is nowhere set. -/
theorem report_of_undeclared (given : options.schema = some path)
    (loaded : Schema.load tree path = .ok schema)
    (selected : selectFiles tree input options path = .ok files) :
    (∀ field, options.values = some field → schema.field? field = none →
      report tree input options =
        if loadFiles tree schema (options.records.getD "") files = [] then ⟨1, [], none⟩
        else ⟨2, [], some ("Error: field not found: " ++ field)⟩) ∧
    (∀ predicate, options.values = none → readPredicate tree options = .ok predicate →
      (∃ comparison ∈ predicate.comparisons, schema.field? comparison.1 = none) →
        ∃ error, schema.bind predicate = .error error ∧
          report tree input options = ⟨2, [], some ("Query error: " ++ error.message)⟩) := by
  constructor
  · intro field listing undeclared
    exact report_of_undeclared_values given loaded selected listing undeclared
  · rintro predicate query read ⟨comparison, member, undeclared⟩
    exact report_of_undeclared_query given loaded selected query read member undeclared

end Report

/-- A run that lists the authors. -/
def authorListing : Options := { titleOptions with values := some "author" }

/-- A run that asks for a title or an author. -/
def authorQuery : Options := { titleOptions with query := some "title = \"A\" or author = 1" }

/-- A run over the directory selects nothing as long as no file is in it. -/
theorem selectFiles_titleTree_nil {options : Options} (given : options.records = some "records")
    (walked : options.stdin = false) (input path : String) :
    selectFiles (titleTree []) input options path = .ok [] := by
  have found : Files.collect (titleTree []) "records" = [] := by decide +kernel
  rw [selectFiles_of_walk given walked, found]
  rfl

theorem report_of_undeclared_author :
    titleSchema.field? "author" = none ∧
      Schema.load (titleTree [("a.yaml", .file "title: A\n")]) "schema.yaml" = .ok titleSchema ∧
      report (titleTree [("a.yaml", .file "title: A\n")]) "" authorListing =
        ⟨2, [], some "Error: field not found: author"⟩ ∧
      Schema.load (titleTree []) "schema.yaml" = .ok titleSchema ∧
      report (titleTree []) "" authorQuery =
        ⟨2, [], some "Query error: model Post has no field author"⟩ := by
  have undeclared : titleSchema.field? "author" = none := by decide
  have oneLoaded := load_titleTree [("a.yaml", .file "title: A\n")]
  obtain ⟨oneSelected, loads⟩ :
      (selectFiles (titleTree [("a.yaml", .file "title: A\n")]) "" authorListing "schema.yaml" =
        .ok ["records/a.yaml"]) ∧
      loadFiles (titleTree [("a.yaml", .file "title: A\n")]) titleSchema
        (authorListing.records.getD "") ["records/a.yaml"] ≠ [] := by decide +kernel
  have noneLoaded := load_titleTree []
  have noneSelected : selectFiles (titleTree []) "" authorQuery "schema.yaml" = .ok [] :=
    selectFiles_titleTree_nil rfl rfl "" "schema.yaml"
  refine ⟨undeclared, oneLoaded, ?listing, noneLoaded, ?query⟩
  case listing =>
    have listed := (report_of_undeclared rfl oneLoaded oneSelected).1 "author" rfl undeclared
    rw [if_neg loads] at listed
    exact listed
  case query =>
    obtain ⟨error, refused, queried⟩ := (report_of_undeclared rfl noneLoaded noneSelected).2
      (.group .or
        [.compare "title" (.relates .eq (.string "A")), .compare "author" (.relates .eq (.int 1))])
      rfl rfl ⟨("author", .relates .eq (.int 1)), by decide, undeclared⟩
    cases refused
    exact queried

/-- In a directory without a record file a listing of an undeclared field is not refused. -/
theorem report_authorListing :
    Options.read ["--schema", "schema.yaml", "--records", "records", "--values", "author"] [] =
        .ok authorListing ∧
      Schema.load (titleTree []) "schema.yaml" = .ok titleSchema ∧
      titleSchema.field? "author" = none ∧
      report (titleTree []) "" authorListing = ⟨1, [], none⟩ := by
  have undeclared : titleSchema.field? "author" = none := by decide
  have selected : selectFiles (titleTree []) "" authorListing "schema.yaml" = .ok [] :=
    selectFiles_titleTree_nil rfl rfl "" "schema.yaml"
  have loaded := load_titleTree []
  exact ⟨rfl, loaded, undeclared,
    report_of_undeclared_values rfl loaded selected rfl undeclared⟩

end CommandLine
end RecordQuery
