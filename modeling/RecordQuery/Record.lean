import RecordQuery.Schema.Conversion

/-!
# Records

A record is one instance of a model: a label that says where it came from, and the values of its
fields.  A file holds one record, as a mapping, or a sequence of them, whose labels are numbered.
A file is loaded as a whole or not at all.
-/

namespace RecordQuery

/-- One instance of a model. -/
structure Record where
  /-- The schema that the record was loaded under. -/
  schema : Schema
  /-- Where the record came from, for display. -/
  label : String
  /-- The values of the fields that are set; the first entry of a name counts. -/
  values : List (String × Value)
  deriving Repr

namespace Record

/-- The value of a field, if the field is set. -/
def get? (record : Record) (field : String) : Option Value := record.values.lookup field

/-- What a record holds under the name of a field. -/
def target (record : Record) : Target := fun name =>
  match record.schema.field? name with
  | none => .error (.fieldNotFound name)
  | some _ => .ok (record.get? name)

/-- The value of an entry whose key is a declared field; any other entry has none. -/
def entryValue (schema : Schema) (key content : Document) :
    Except SchemaError (Option (String × Value)) :=
  match key.string?.bind schema.field? with
  | none => .ok none
  | some field => do
    let value ← field.convert content
    return value.map fun value => (field.name, value)

/-- The values of the entries of a mapping, later ones first. -/
def entryValues (schema : Schema) :
    List (Document × Document) → Except SchemaError (List (String × Value))
  | [] => .ok []
  | (key, content) :: entries => do
    let value ← entryValue schema key content
    let later ← entryValues schema entries
    return later ++ value.toList

/-- The record of a mapping, or the error of its first entry that does not convert. -/
def ofEntries (schema : Schema) (label : String) (entries : List (Document × Document)) :
    Except SchemaError Record :=
  (entryValues schema entries).map fun values => ⟨schema, label, values⟩

/-- The records of the items of a sequence from the given number on. -/
def ofItems (schema : Schema) (path label : String) :
    Nat → List Document → Except SchemaError (List Record)
  | _, [] => .ok []
  | number, item :: items => do
    let record ←
      match item.entries? with
      | some entries => ofEntries schema (label ++ "#" ++ toString number) entries
      | none => .error (.notAMapping path)
    return record :: (← ofItems schema path label (number + 1) items)

/-- The records of a document: one for a mapping, and one for each item of a sequence. -/
def ofDocument (schema : Schema) (path label : String) :
    Document → Except SchemaError (List Record)
  | .mapping entries => (ofEntries schema label entries).map fun record => [record]
  | .sequence items => ofItems schema path label 0 items
  | _ => .error (.notAMapping path)

/-- The records in the file at a path. -/
def load (tree : Files.Tree) (schema : Schema) (path label : String) :
    Except SchemaError (List Record) :=
  match tree.read path with
  | .error failure => .error (.unreadable path failure)
  | .ok text =>
    match Document.read? text with
    | some document => ofDocument schema path label document
    | none => .error (.invalidYaml path)

end Record
end RecordQuery
