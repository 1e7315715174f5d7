import RecordQuery.Document.Scalar
import RecordQuery.Files.Tree
import RecordQuery.Predicate.Evaluation

/-!
# Schemas

A schema names a model and declares its fields, each with the kind of its values and, for an
enumeration, its cases.  It is read from a YAML text in which a plain scalar stands for its own
text wherever a string is wanted.  Unknown keys are passed over, and a known key stands once.
-/

namespace RecordQuery

/-- The declaration of a field. -/
structure Field where
  /-- The name of the field. -/
  name : String
  /-- The kind of its values. -/
  kind : Kind
  /-- The names of the cases of an enumeration. -/
  cases : List String
  deriving DecidableEq, Repr

/-- The declared fields of a model. -/
structure Schema where
  /-- The name of the model. -/
  name : String
  /-- The fields in the order of their declaration; the first of a name counts. -/
  fields : List Field
  deriving DecidableEq, Repr

/-- Why a schema, a record or a query does not fit. -/
inductive SchemaError where
  | unreadable (path : String) (failure : Files.Failure)
  | invalidYaml (path : String)
  | unknownField (model field : String)
  | invalidValue (field : String) (expected : Kind) (found : String)
  | unknownCase (field case : String)
  | unsupportedOperator (field : String) (kind : Kind) (operator : Operator)
  | notAMapping (path : String)
  deriving DecidableEq, Repr

/-- The text of a schema error. -/
def SchemaError.message : SchemaError → String
  | .unreadable path failure => "failed to read " ++ path ++ ": " ++ failure.message
  | .invalidYaml path => "invalid YAML in " ++ path ++ ": "
  | .unknownField model field => "model " ++ model ++ " has no field " ++ field
  | .invalidValue field expected found =>
    "field " ++ field ++ " expects " ++ expected.name ++ ", got " ++ found
  | .unknownCase field case => case ++ " is not a case of enum field " ++ field
  | .unsupportedOperator field kind operator =>
    "operator " ++ operator.name ++ " is not supported on " ++ kind.name ++ " field " ++ field
  | .notAMapping path =>
    "record document in " ++ path ++ " must be a mapping or a sequence of mappings"

namespace Schema

/-- The declaration of a field by its name. -/
def field? (schema : Schema) (name : String) : Option Field :=
  schema.fields.find? fun field => field.name == name

/-- The items of a sequence; a place where nothing is written is an empty one. -/
def nodeItems? (node : Yaml.Node) : Option (List Yaml.Node) :=
  match node.untagged with
  | .sequence items => some items
  | .scalar true "" => some []
  | _ => none

/-- The entries of a mapping with the texts of their keys, which all have to be scalars. -/
def nodeEntries? (node : Yaml.Node) : Option (List (String × Yaml.Node)) :=
  match node.untagged with
  | .mapping entries => entries.mapM fun (key, value) => return (← key.text?, value)
  | _ => none

/-- The values under a key. -/
def valuesOf (entries : List (String × Yaml.Node)) (key : String) : List Yaml.Node :=
  (entries.filter fun entry => entry.1 == key).map (·.2)

/-- The value under a key that stands once. -/
def required? (entries : List (String × Yaml.Node)) (key : String) : Option Yaml.Node :=
  match valuesOf entries key with
  | [value] => some value
  | _ => none

/-- The cases of a field, none if the key is missing. -/
def casesOf? (entries : List (String × Yaml.Node)) : Option (List String) :=
  match valuesOf entries "cases" with
  | [] => some []
  | [value] => do (← nodeItems? value).mapM Yaml.Node.text?
  | _ => none

/-- The kind that a node names: by its text, or by a tag with nothing under it. -/
def kindOf? : Yaml.Node → Option Kind
  | .scalar _ text => Kind.ofName? text
  | .tagged tag (.scalar true text) =>
    if text ∈ Yaml.nullTexts then Kind.ofName? (Yaml.tagName tag) else none
  | _ => none

/-- The field that a node declares. -/
def fieldOf? (node : Yaml.Node) : Option Field := do
  let entries ← nodeEntries? node
  let name ← (← required? entries "name").text?
  let kind ← kindOf? (← required? entries "type")
  return ⟨name, kind, ← casesOf? entries⟩

/-- The schema that a node is. -/
def ofNode? (node : Yaml.Node) : Option Schema := do
  let entries ← nodeEntries? node
  let name ← (← required? entries "name").text?
  let fields ← (← nodeItems? (← required? entries "fields")).mapM fieldOf?
  return ⟨name, fields⟩

/-- The schema that a text holds. -/
def read? (text : String) : Option Schema := do ofNode? (← Yaml.Node.read? text)

/-- The schema in the file at a path. -/
def load (tree : Files.Tree) (path : String) : Except SchemaError Schema :=
  match tree.read path with
  | .error failure => .error (.unreadable path failure)
  | .ok text =>
    match read? text with
    | some schema => .ok schema
    | none => .error (.invalidYaml path)

end Schema
end RecordQuery
