import RecordQuery.CommandLine.Run
import RecordQuery.Proofs.Record

/-!
# Runs whose schema and files are there

Once the schema is loaded and the record files are selected, a run works on the loaded records alone.
All of them are loaded under the schema of the run.
-/

namespace RecordQuery
namespace CommandLine

variable {tree : Files.Tree} {schema : Schema}

theorem isLoaded_of_loadFile {root path : String} :
    ∀ record ∈ loadFile tree schema root path, record.IsLoaded schema := by
  rw [loadFile]
  cases loads : Record.load tree schema path (Files.label root path) with
  | error error => exact List.forall_mem_nil _
  | ok records => exact Record.isLoaded_of_load loads

/-- Every record of a run is loaded under the schema of the run. -/
theorem isLoaded_of_loadFiles {root : String} {paths : List String} :
    ∀ record ∈ loadFiles tree schema root paths, record.IsLoaded schema := by
  intro record member
  obtain ⟨path, -, inside⟩ := List.mem_flatMap.mp member
  exact isLoaded_of_loadFile record inside

section Report

variable {input path : String} {options : Options} {files : List String}

/-- Without a listing, the files are those that a walk of the directory finds. -/
theorem selectFiles_of_walk {directory : String} (given : options.records = some directory)
    (walked : options.stdin = false) (tree : Files.Tree) (input path : String) :
    selectFiles tree input options path =
      .ok (Files.exclude tree (Files.collect tree directory) path) := by
  simp only [selectFiles, walked, given]
  rfl

/-- Once the schema and the files are there, a run lists values or answers a query. -/
theorem run_eq (given : options.schema = some path) (loaded : Schema.load tree path = .ok schema)
    (selected : selectFiles tree input options path = .ok files) :
    run tree input options =
      match options.values with
      | some field =>
        ((Listing.collect ((loadFiles tree schema (options.records.getD "") files).map Record.target)
          field).mapError Failure.values).map fun counts => Listing.lines counts options.count
      | none =>
        select tree options schema (loadFiles tree schema (options.records.getD "") files) := by
  simp only [run, given, loaded, selected]
  cases options.values with
  | none => rfl
  | some field => rfl

theorem report_of_error {failure : Failure} (fails : run tree input options = .error failure) :
    report tree input options = ⟨2, [], some failure.message⟩ := by
  rw [report, fails]

end Report

/-! ## A small tree of files -/

/-- A schema of a title alone. -/
def titleSchema : Schema := ⟨"Post", [⟨"title", .string, []⟩]⟩

/-- The file of that schema, and a directory with the given record files. -/
def titleTree (records : List (String × Files.Entry)) : Files.Tree :=
  ⟨.directory [("schema.yaml", .file "name: Post\nfields: [\x7bname: title, type: string\x7d]\n"),
    ("records", .directory records)], []⟩

theorem load_titleTree (records : List (String × Files.Entry)) :
    Schema.load (titleTree records) "schema.yaml" = .ok titleSchema := by
  have reads : (titleTree records).read "schema.yaml" =
      .ok "name: Post\nfields: [\x7bname: title, type: string\x7d]\n" := rfl
  rw [Schema.load_eq_ok_iff reads]
  decide +kernel

/-- The options of a run over the record files of the directory. -/
def titleOptions : Options := { schema := some "schema.yaml", records := some "records" }

end CommandLine
end RecordQuery
