import RecordQuery.Calendar.Reader
import RecordQuery.Storage.Form
import RecordQuery.Value.Basic
import RecordQuery.Yaml.Node

/-!
# Stored values

A value is stored as the name of its kind and its content: Booleans, integers, doubles and strings
as themselves, dates and times by their text.  Reading accepts an integer for a double and dates
and times in their lenient forms.  A value that is part of a stored predicate has all the forms of
a constructor with one argument; a value of its own is a mapping, and stands under any tag.
-/

namespace RecordQuery

/-- The name under which values of a kind are stored. -/
def Kind.storedName : Kind → String
  | .dateTime => "dateTime"
  | kind => kind.name

/-- The kind with the given stored name. -/
def Kind.ofStoredName? (name : String) : Option Kind :=
  Kind.all.find? fun kind => kind.storedName == name

namespace Value

/-- The content of a stored value. -/
def content : Value → Document
  | .bool value => .bool value
  | .int value => .int value.toInt
  | .double value => .double value
  | .string text => .string text
  | .enum text => .string text
  | value => .string (String.ofList value.text)

/-- The document that stores a value. -/
def toDocument (value : Value) : Document :=
  Storage.form "type" value.kind.storedName [("value", value.content)]

/-- The value of a kind with the given content. -/
def ofContent? (kind : Kind) (content : Document) : Option Value :=
  match kind with
  | .bool => content.bool?.map .bool
  | .int => (content.int?.bind int64?).map .int
  | .double => content.number?.map .double
  | .string => content.string?.map .string
  | .enum => content.string?.map .enum
  | .date => (content.string?.bind fun text => Date.readStored? text.toList).map .date
  | .dateTime => (content.string?.bind fun text => Instant.readStored? text.toList).map .dateTime
  | .time => (content.string?.bind fun text => TimeOfDay.readStored? text.toList).map .time

/-- The value that a part of a stored predicate stores. -/
def ofStored? (document : Document) : Option Value := do
  let (kind, content) ←
    Storage.readPair? (Storage.choice? Kind.all Kind.storedName) "type" "value" document
  ofContent? kind content

/-- The kind that a value of its own is stored under: a name, or a tag with nothing under it. -/
def storedKind? : Document → Option Kind
  | .string name => Kind.ofStoredName? name
  | .tagged tag .null => Kind.ofStoredName? (Yaml.tagName tag)
  | _ => none

/-- The value that a document of its own stores, which has to be a mapping with strings as keys.
A tag on the content is passed over if the kind stands before it. -/
def read? (document : Document) : Option Value := do
  let entries ← document.entries?
  let kind ← storedKind? (← Document.entry? entries "type")
  let content ← Document.entry? entries "value"
  let earlier := entries.takeWhile fun entry => entry.1.string? != some "value"
  let kindIsKnown := earlier.any fun entry => entry.1.string? == some "type"
  if (entries.all fun entry => entry.1.string?.isSome) && (kindIsKnown || content.isUntagged) then
    ofContent? kind content
  else
    none

end Value
end RecordQuery
