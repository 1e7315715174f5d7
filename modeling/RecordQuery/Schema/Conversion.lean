import RecordQuery.Calendar.Reader
import RecordQuery.Schema.Basic

/-!
# Converting documents to field values

The value of a field is read from a document by the declared kind.  Null leaves the field unset.  A
string field takes every scalar by its text, and an enumeration the same if the text is one of its
cases; dates and times are strings of their one form; a double may be written as an integer.
-/

namespace RecordQuery

namespace Value

/-- The value of a kind that a document stands for; any text is taken as a case. -/
def ofDocument? (kind : Kind) (document : Document) : Option Value :=
  match kind with
  | .bool => document.bool?.map .bool
  | .int => (document.int?.bind int64?).map .int
  | .double => document.number?.map .double
  | .string => document.scalarText?.map .string
  | .date => (document.string?.bind fun text => Date.read? text.toList).map .date
  | .dateTime => (document.string?.bind fun text => Instant.read? text.toList).map .dateTime
  | .time => (document.string?.bind fun text => TimeOfDay.read? text.toList).map .time
  | .enum => document.scalarText?.map .enum

end Value

namespace Field

/-- The text as a case of an enumeration field. -/
def caseOf (field : Field) (text : String) : Except SchemaError Value :=
  if text ∈ field.cases then .ok (.enum text) else .error (.unknownCase field.name text)

/-- The value of a field that a document stands for, none if it is null. -/
def convert (field : Field) (document : Document) : Except SchemaError (Option Value) :=
  if document.isNull then .ok none
  else
    match Value.ofDocument? field.kind document with
    | some (.enum text) => (field.caseOf text).map some
    | some value => .ok (some value)
    | none => .error (.invalidValue field.name field.kind document.describe)

end Field
end RecordQuery
