import RecordQuery.Calendar.Instant
import RecordQuery.Double.Notation

/-!
# Values

A value is what a field of a record holds and what a query compares it with.  Its kind is the
constructor it is built with; `Value.text` is how it is listed.
-/

namespace RecordQuery

/-- The kinds of values, which are also the types that a schema declares. -/
inductive Kind where
  | bool
  | int
  | double
  | string
  | date
  | dateTime
  | time
  | enum
  deriving DecidableEq, Repr

namespace Kind

/-- The word for a kind in schemas and messages. -/
def name : Kind → String
  | .bool => "bool"
  | .int => "int"
  | .double => "double"
  | .string => "string"
  | .date => "date"
  | .dateTime => "datetime"
  | .time => "time"
  | .enum => "enum"

/-- All kinds, in the order of their declaration. -/
def all : List Kind := [.bool, .int, .double, .string, .date, .dateTime, .time, .enum]

/-- The kind with the given name. -/
def ofName? (name : String) : Option Kind := all.find? fun kind => kind.name == name

@[simp]
theorem ofName?_name (kind : Kind) : ofName? kind.name = some kind := by
  cases kind <;> rfl

end Kind

/-- The value of a field, or the operand it is compared with. -/
inductive Value where
  | bool (value : Bool)
  | int (value : Int64)
  | double (value : Double)
  | string (value : String)
  | date (value : Date)
  | dateTime (value : Instant)
  | time (value : TimeOfDay)
  /-- A case of an enumeration, by the name it is stored under. -/
  | enum (case : String)
  deriving DecidableEq, Repr

namespace Value

/-- The kind of a value. -/
def kind : Value → Kind
  | .bool _ => .bool
  | .int _ => .int
  | .double _ => .double
  | .string _ => .string
  | .date _ => .date
  | .dateTime _ => .dateTime
  | .time _ => .time
  | .enum _ => .enum

/-- The text of a string value. -/
def string? : Value → Option String
  | .string text => some text
  | _ => none

/-- The value as it is listed. -/
def text : Value → List Char
  | .bool value => (if value then "true" else "false").toList
  | .int value => Text.ofInt value.toInt
  | .double value => Double.positional.text value
  | .string value => value.toList
  | .date value => value.text
  | .dateTime value => value.text
  | .time value => value.text
  | .enum case => case.toList

instance : ToString Value := ⟨fun value => String.ofList value.text⟩

/-- The integer as a value's, if sixty-four bits hold it. -/
def int64? (n : Int) : Option Int64 :=
  if Int64.minValue.toInt ≤ n ∧ n ≤ Int64.maxValue.toInt then some (Int64.ofInt n) else none

@[simp]
theorem int64?_toInt (value : Int64) : int64? value.toInt = some value := by
  rw [int64?, if_pos ⟨value.minValue_le_toInt, value.toInt_le⟩, Int64.ofInt_toInt]

end Value
end RecordQuery
