import RecordQuery.Calendar.Reader
import RecordQuery.Double.Reader
import RecordQuery.Text.Quoted
import RecordQuery.Value.Basic

/-!
# Literals of the query language

In a query, strings and enumeration cases are written between quotes and all other values without.
`Value.literal` writes an operand, with a point in every finite double so that it is not read back
as an int.  `Value.ofScalar?` reads an unquoted one: as a date, an instant or a time if it has that
form, otherwise as a number, which is a double if it is written with a point or an exponent or is
not finite, and an int otherwise.
-/

namespace RecordQuery
namespace Value

/-- The value as an operand is written. -/
def literal : Value → List Char
  | .string text => Text.quote text.toList
  | .enum case => Text.quote case.toList
  | .double value => if value.isWhole then Double.wholeText value else Double.positional.text value
  | value => value.text

/-- An integer in decimal after an optional sign. -/
def readInt? (text : List Char) : Option Int :=
  let (negative, digits) := Double.readSign text
  if digits.isEmpty || !digits.all Char.isDigit then none
  else
    let size : Int := Nat.ofDigitChars 10 digits 0
    some (if negative then -size else size)

/-- The number that an unquoted operand stands for. -/
def ofNumber? (text : List Char) : Option Value :=
  if text.any fun c => c == '.' || c == 'e' || c == 'E' then
    (Double.read? text).map .double
  else
    match (Double.read? text).filter fun value => !value.isFinite with
    | some value => some (.double value)
    | none => ((readInt? text).bind int64?).map .int

/-- The value that an unquoted operand stands for. -/
def ofScalar? (text : List Char) : Option Value :=
  ((Date.read? text).map .date).or
    (((Instant.read? text).map .dateTime).or
      (((TimeOfDay.read? text).map .time).or (ofNumber? text)))

end Value
end RecordQuery
