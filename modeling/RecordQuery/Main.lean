import RecordQuery.CommandLine.Run

/-!
# The command

The command takes a picture of the files in and below its current directory, with the ignore files
of the directories above, and prints the report of a run on it.
-/

namespace RecordQuery

/-- What is written for arguments that are not carried out. -/
def usage : String :=
  "Filter model records with typed query predicates\n\n" ++
  "Usage: modelq [OPTIONS] [QUERY]\n\n" ++
  "  --records DIR     Directory holding record files\n" ++
  "  --schema FILE     Model schema (YAML)\n" ++
  "  --stdin           Read record file paths from stdin\n" ++
  "  --predicate FILE  Load a serialized predicate tree instead of a query\n" ++
  "  --values FIELD    List unique values for a field\n" ++
  "  --count           Show count for each value (use with --values)"

/-- The text of a file; one that is no text is taken as empty. -/
def textOfBytes (bytes : ByteArray) : String := (String.fromUTF8? bytes).getD ""

/-- The ignore files directly in a directory. -/
def ignoreEntries (directory : String) : IO (List (String × Files.Entry)) :=
  Files.ignoreFileNames.filterMapM fun name => do
    let path : String := directory ++ "/" ++ name
    try
      return some (name, .file (textOfBytes (← IO.FS.readBinFile path)))
    catch _ => return none

/-- What a directory holds under a name; nothing if it cannot be read. -/
partial def readEntry (item : IO.FS.DirEntry) : IO (Option (String × Files.Entry)) := do
  try
    if ← item.path.isDir then
      let entries ← (← item.path.readDir).toList.filterMapM readEntry
      return some (item.fileName, .directory entries)
    else
      return some (item.fileName, .file (textOfBytes (← IO.FS.readBinFile item.path)))
  catch _ => return none

/-- The directory at a place, given by its names from the last to the first, as part of the root
directory.  Of the directories on the way, only the ignore files are read. -/
def enclose (directory : Files.Entry) : List String → IO Files.Entry
  | [] => return directory
  | name :: names => do
    let ignores ← ignoreEntries ("/" ++ Files.pathOfParts names.reverse)
    enclose (.directory ((name, directory) :: ignores)) names

/-- The files that a run in the current directory can see. -/
def readTree : IO Files.Tree := do
  let place ← IO.currentDir
  let names := (Files.pathParts place.toString).filter (· != "")
  let entries ← (← place.readDir).toList.filterMapM readEntry
  return ⟨← enclose (.directory entries) names.reverse, names⟩

/-- The environment variables that a run depends on. -/
def readEnvironment : IO (List (String × String)) :=
  ["MODELQ_RECORDS", "MODELQ_SCHEMA"].filterMapM fun key => do
    return (← IO.getEnv key).map fun value => (key, value)

end RecordQuery

open RecordQuery CommandLine

def main (arguments : List String) : IO UInt32 := do
  match Options.read arguments (← readEnvironment) with
  | .error .help =>
    IO.println usage
    return 0
  | .error .usage =>
    IO.eprintln usage
    return 2
  | .ok options =>
    let input ← if options.stdin then (← IO.getStdin).readToEnd else pure ""
    let report := report (← readTree) input options
    for line in report.lines do
      IO.println line
    if let some message := report.error then
      IO.eprintln message
    return report.status.toUInt32
