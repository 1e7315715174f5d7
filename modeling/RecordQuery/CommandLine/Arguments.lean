/-!
# Command-line arguments

The arguments are options, at most one query, and `--`, after which every argument is a query.  An
option stands once; its value follows an equals sign or is the next argument, which must not look
like an option itself.  The records and the schema may be given by the environment instead.
Arguments are read from left to right, and the first one that is wrong decides.
-/

namespace RecordQuery
namespace CommandLine

/-- What the arguments ask for. -/
structure Options where
  /-- The directory that holds the record files. -/
  records : Option String := none
  /-- The file that holds the schema. -/
  schema : Option String := none
  /-- The file that holds a stored predicate. -/
  predicate : Option String := none
  /-- The field whose values are listed. -/
  values : Option String := none
  /-- The paths of record files are read from the standard input. -/
  stdin : Bool := false
  /-- Listed values are counted. -/
  count : Bool := false
  /-- The query. -/
  query : Option String := none
  deriving DecidableEq, Repr

/-- Why the arguments are not carried out. -/
inductive Refusal where
  /-- They are wrong. -/
  | usage
  /-- They ask for help. -/
  | help
  deriving DecidableEq, Repr

namespace Options

/-- A path, which must not be empty. -/
def checkPath (path : String) : Except Refusal String :=
  if path = "" then .error .usage else .ok path

/-- The value in a place that is still free. -/
def fill (place : Option String) (value : String) : Except Refusal (Option String) :=
  if place.isSome then .error .usage else .ok (some value)

/-- The options with the value of one of them. -/
def setValue (options : Options) (name value : String) : Except Refusal Options := do
  match name with
  | "records" => return { options with records := ← fill options.records (← checkPath value) }
  | "schema" => return { options with schema := ← fill options.schema (← checkPath value) }
  | "predicate" =>
    return { options with predicate := ← fill options.predicate (← checkPath value) }
  | "values" => return { options with values := ← fill options.values value }
  | _ => .error .usage

/-- The options with one of those that take no value. -/
def setFlag (options : Options) (name : String) : Except Refusal Options :=
  match name with
  | "stdin" => if options.stdin then .error .usage else .ok { options with stdin := true }
  | "count" => if options.count then .error .usage else .ok { options with count := true }
  | "help" => .error .help
  | _ => .error .usage

/-- The options with a query. -/
def setQuery (options : Options) (query : String) : Except Refusal Options := do
  return { options with query := ← fill options.query query }

/-- The names of the options that take a value. -/
def valueNames : List String := ["records", "schema", "predicate", "values"]

end Options

/-- The argument begins with the given text. -/
def begins (start argument : String) : Bool := start.toList.isPrefixOf argument.toList

/-- The argument looks like an option: it begins with a dash and is longer. -/
def looksLikeOption (argument : String) : Bool := begins "-" argument && argument != "-"

/-- The name of a long option and the value after its equals sign. -/
def splitOption (argument : String) : String × Option String :=
  let body := argument.toList.drop 2
  let name := body.takeWhile (· != '=')
  match body.drop name.length with
  | [] => (String.ofList name, none)
  | _ :: value => (String.ofList name, some (String.ofList value))

/-- The options with those that the arguments give. -/
def readArguments (options : Options) : List String → Except Refusal Options
  | [] => .ok options
  | argument :: arguments =>
    if argument = "--" then arguments.foldlM Options.setQuery options
    else if begins "--" argument then
      match splitOption argument with
      | (name, some value) => do readArguments (← options.setValue name value) arguments
      | (name, none) =>
        if name ∈ Options.valueNames then
          match arguments with
          | [] => .error .usage
          | value :: arguments =>
            if looksLikeOption value then .error .usage
            else do readArguments (← options.setValue name value) arguments
        else do
          readArguments (← options.setFlag name) arguments
    else if looksLikeOption argument then
      .error (if begins "-h" argument then .help else .usage)
    else do
      readArguments (← options.setQuery argument) arguments

/-- A place filled from the environment if it is still free. -/
def fromEnvironment (environment : List (String × String)) (key : String)
    (place : Option String) : Except Refusal (Option String) :=
  match place, environment.lookup key with
  | none, some path => (Options.checkPath path).map some
  | place, _ => .ok place

/-- The options that arguments and environment give. -/
def Options.read (arguments : List String) (environment : List (String × String)) :
    Except Refusal Options := do
  let options ← readArguments {} arguments
  let records ← fromEnvironment environment "MODELQ_RECORDS" options.records
  let schema ← fromEnvironment environment "MODELQ_SCHEMA" options.schema
  return { options with records, schema }

end CommandLine
end RecordQuery
