import RecordQuery.CommandLine.Arguments
import RecordQuery.Files.Exclusion
import RecordQuery.Files.Walk
import RecordQuery.Listing
import RecordQuery.Predicate.Parser
import RecordQuery.Record
import RecordQuery.Schema.Binding
import RecordQuery.Storage.Predicate

/-!
# A run of the command line

A run loads the schema, selects the record files, loads the records of those files that are sound,
and then either lists the values of a field or prints the labels of the records that a query
selects.  It is a function of the files, the standard input and the options: the status is 0 if
lines are printed, 1 if there are none, and 2 if there is an error line instead.
-/

namespace RecordQuery
namespace CommandLine

/-- An error that ends a run. -/
inductive Failure where
  | noSchema
  | schema (error : SchemaError)
  | noRecords
  | values (error : EvaluationError)
  | unreadablePredicate (path : String) (failure : Files.Failure)
  | invalidPredicate
  | noQuery
  | syntaxError (error : ParseError)
  | binding (error : SchemaError)
  | evaluation (error : EvaluationError)
  deriving DecidableEq, Repr

/-- The error line of a failure. -/
def Failure.message : Failure → String
  | .noSchema => "Error: No schema specified. Use --schema or set MODELQ_SCHEMA"
  | .schema error => "Schema error: " ++ error.message
  | .noRecords => "Error: No records directory specified. Use --records or set MODELQ_RECORDS"
  | .values error => "Error: " ++ error.message
  | .unreadablePredicate path failure =>
    "Error: failed to read " ++ path ++ ": " ++ failure.message
  | .invalidPredicate => "Predicate error: "
  | .noQuery => "Error: No query provided"
  | .syntaxError error => "Query error: " ++ error.message
  | .binding error => "Query error: " ++ error.message
  | .evaluation error => "Evaluation error: " ++ error.message

/-- The paths that a text lists, one a line; blank lines are passed over. -/
def listedPaths (text : String) : List String :=
  ((Text.lines text.toList).filter fun line => !line.all Text.isBlank).map String.ofList

/-- The record files of a run: listed on the standard input or found below the directory of the
records, and in both cases without the schema. -/
def selectFiles (tree : Files.Tree) (input : String) (options : Options) (schemaPath : String) :
    Except Failure (List String) := do
  let files ←
    if options.stdin then .ok (listedPaths input)
    else
      match options.records with
      | none => .error .noRecords
      | some directory => .ok (Files.collect tree directory)
  return Files.exclude tree files schemaPath

/-- The records of a file under the label that it has below a root; a file that is not sound as a
whole has none. -/
def loadFile (tree : Files.Tree) (schema : Schema) (root path : String) : List Record :=
  (Record.load tree schema path (Files.label root path)).toOption.getD []

/-- The records of files, in the order of the files. -/
def loadFiles (tree : Files.Tree) (schema : Schema) (root : String) (paths : List String) :
    List Record :=
  paths.flatMap (loadFile tree schema root)

/-- The predicate of a run: from a file if one is given, and otherwise from the query. -/
def readPredicate (tree : Files.Tree) (options : Options) : Except Failure Predicate :=
  match options.predicate, options.query with
  | some path, _ =>
    match tree.read path with
    | .error failure => .error (.unreadablePredicate path failure)
    | .ok text =>
      match Predicate.read? text with
      | some predicate => .ok predicate
      | none => .error .invalidPredicate
  | none, some query => (Predicate.parse query).mapError .syntaxError
  | none, none => .error .noQuery

/-- The labels of the records that the predicate of a run selects. -/
def select (tree : Files.Tree) (options : Options) (schema : Schema) (records : List Record) :
    Except Failure (List String) := do
  let predicate ← readPredicate tree options
  let bound ← (schema.bind predicate).mapError .binding
  let selected ← (bound.filter Record.target records).mapError .evaluation
  return selected.map (·.label)

/-- The lines that a run prints. -/
def run (tree : Files.Tree) (input : String) (options : Options) :
    Except Failure (List String) := do
  let some schemaPath := options.schema | .error .noSchema
  let schema ← (Schema.load tree schemaPath).mapError .schema
  let files ← selectFiles tree input options schemaPath
  let records := loadFiles tree schema (options.records.getD "") files
  match options.values with
  | some field =>
    let counts ← (Listing.collect (records.map Record.target) field).mapError .values
    return Listing.lines counts options.count
  | none => select tree options schema records

/-- What a run leaves behind. -/
structure Report where
  /-- The exit status. -/
  status : Nat
  /-- The printed lines. -/
  lines : List String
  /-- The error line. -/
  error : Option String
  deriving DecidableEq, Repr

/-- The report of a run with the given options. -/
def report (tree : Files.Tree) (input : String) (options : Options) : Report :=
  match run tree input options with
  | .ok lines => ⟨if lines.isEmpty then 1 else 0, lines, none⟩
  | .error failure => ⟨2, [], some failure.message⟩

end CommandLine
end RecordQuery
