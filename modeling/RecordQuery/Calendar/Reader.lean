import RecordQuery.Calendar.Instant
import RecordQuery.Text.Blank

/-!
# Reading dates, times and instants

Dates and times are read in two ways.  In a query and in a record each has one form: a date is
year, month and day, a time is hour, minute and second with an optional fraction, and an instant
follows RFC 3339 with fixed widths.  In a stored value the readers are lenient: blanks may stand
around every number, a time needs no seconds, and an instant may end in `UTC`.
-/

namespace RecordQuery
namespace Calendar

open Text

/-- The given character, and the text after it. -/
def readChar? (c : Char) : List Char → Option (List Char)
  | [] => none
  | d :: rest => if c = d then some rest else none

/-- A number of one or two digits, after blanks. -/
def readPart? (text : List Char) : Option (Nat × List Char) :=
  readDigits? 1 (some 2) (skipBlank text)

/-- A year, after blanks: up to four digits, or any number of them after a sign. -/
def readYear? (text : List Char) : Option (Int × List Char) :=
  match skipBlank text with
  | '-' :: rest => (readDigits? 1 none rest).map fun (year, rest) => (-(year : Int), rest)
  | '+' :: rest => (readDigits? 1 none rest).map fun (year, rest) => ((year : Int), rest)
  | rest => (readDigits? 1 (some 4) rest).map fun (year, rest) => ((year : Int), rest)

/-- The fraction of a second after an optional point, in nanoseconds.  Digits from the tenth on
are passed over. -/
def readFraction? : List Char → Option (Nat × List Char)
  | '.' :: rest => do
    let (value, unread) ← readDigits? 1 (some 9) rest
    let count := rest.length - unread.length
    return (value * Nat.pow 10 (9 - count), unread.dropWhile Char.isDigit)
  | rest => some (0, rest)

/-- What stands between a number and the separator after it: nothing in the one form of a query,
blanks in the lenient form. -/
def gap (lenient : Bool) (text : List Char) : List Char :=
  if lenient then skipBlank text else text

/-- Year, month and day with dashes between, and the text after them. -/
def readDateParts? (lenient : Bool) (text : List Char) : Option (Date × List Char) := do
  let (year, rest) ← readYear? text
  let rest ← readChar? '-' (gap lenient rest)
  let (month, rest) ← readPart? rest
  let rest ← readChar? '-' (gap lenient rest)
  let (day, rest) ← readPart? rest
  let date ← Date.ofParts? year month day
  return (date, rest)

/-- A second with an optional fraction, both as written. -/
def readSecond? (text : List Char) : Option (Nat × Nat × List Char) := do
  let (second, rest) ← readPart? text
  let (nano, rest) ← readFraction? rest
  return (second, nano, rest)

/-- Hour, minute and second with colons between, and the text after them. -/
def readTimeParts? (lenient : Bool) (text : List Char) : Option (TimeOfDay × List Char) := do
  let (hour, rest) ← readPart? text
  let rest ← readChar? ':' (gap lenient rest)
  let (minute, rest) ← readPart? rest
  let rest ← readChar? ':' (gap lenient rest)
  let (second, nano, rest) ← readSecond? rest
  let time ← TimeOfDay.ofParts? hour minute second nano
  return (time, rest)

/-- Hours and minutes of an offset after its sign, in minutes, with the given rule for what
separates them. -/
def readOffsetSize? (separator : List Char → Option (List Char)) (text : List Char) :
    Option (Nat × List Char) := do
  let (hours, rest) ← readDigits? 2 (some 2) text
  let rest ← separator rest
  let (minutes, rest) ← readDigits? 2 (some 2) rest
  if minutes < 60 then some (hours * 60 + minutes, rest) else none

/-- An offset from universal time, in minutes: the letter `Z`, or a sign with hours and minutes.
The mathematical minus sign is a sign too. -/
def readOffset? (separator : List Char → Option (List Char)) :
    List Char → Option (Int × List Char)
  | [] => none
  | c :: rest =>
    if c = 'Z' ∨ c = 'z' then some (0, rest)
    else if c = '+' then (readOffsetSize? separator rest).map fun (size, rest) => (size, rest)
    else if c = '-' ∨ c = '\u2212' then
      (readOffsetSize? separator rest).map fun (size, rest) => (-(size : Int), rest)
    else none

/-- What separates a date from a time of day: the letter `T` in either case, or a space. -/
def readDateEnd? : List Char → Option (List Char)
  | [] => none
  | c :: rest => if c = 'T' ∨ c = 't' ∨ c = ' ' then some rest else none

/-- The value, if nothing is left to read. -/
def complete {α : Type} : α × List Char → Option α
  | (value, []) => some value
  | _ => none

end Calendar

open Calendar Text

/-- Reads a date as it stands in a query or a record. -/
def Date.read? (text : List Char) : Option Date := do
  complete (← readDateParts? false text)

/-- Reads a date as it stands in a stored value. -/
def Date.readStored? (text : List Char) : Option Date := do
  let (date, rest) ← readDateParts? true text
  complete (date, skipBlank rest)

/-- Reads a time of day as it stands in a query or a record. -/
def TimeOfDay.read? (text : List Char) : Option TimeOfDay := do
  complete (← readTimeParts? false text)

/-- Reads a time of day as it stands in a stored value. -/
def TimeOfDay.readStored? (text : List Char) : Option TimeOfDay := do
  let (hour, rest) ← readPart? text
  let rest ← readChar? ':' (skipBlank rest)
  let (minute, rest) ← readPart? rest
  let (second, nano, rest) :=
    match (readChar? ':' (skipBlank rest)).bind readSecond? with
    | some seconds => seconds
    | none => (0, 0, rest)
  let time ← TimeOfDay.ofParts? hour minute second nano
  complete (time, skipBlank rest)

/-- Reads an instant as it stands in a query or a record: RFC 3339, every number at its full
width. -/
def Instant.read? (text : List Char) : Option Instant := do
  let (year, rest) ← readDigits? 4 (some 4) text
  let (month, rest) ← readDigits? 2 (some 2) (← readChar? '-' rest)
  let (day, rest) ← readDigits? 2 (some 2) (← readChar? '-' rest)
  let (hour, rest) ← readDigits? 2 (some 2) (← readDateEnd? rest)
  let (minute, rest) ← readDigits? 2 (some 2) (← readChar? ':' rest)
  let (second, rest) ← readDigits? 2 (some 2) (← readChar? ':' rest)
  let (nano, rest) ← readFraction? rest
  let offset ← (readOffset? (readChar? ':') rest).bind complete
  Instant.ofLocal? (← Date.ofParts? year month day)
    (← TimeOfDay.ofParts? hour minute second nano) offset

/-- Reads an instant as it stands in a stored value. -/
def Instant.readStored? (text : List Char) : Option Instant := do
  let (date, rest) ← readDateParts? true text
  let (time, rest) ← readTimeParts? true (← readDateEnd? rest)
  let rest := skipBlank rest
  let (offset, rest) ←
    if (rest.take 3).map Char.toUpper = "UTC".toList then some (0, rest.drop 3)
    else readOffset? (fun text => some (text.dropWhile fun c => c == ':' || isBlank c)) rest
  Instant.ofLocal? date time (← complete (offset, skipBlank rest))

end RecordQuery
