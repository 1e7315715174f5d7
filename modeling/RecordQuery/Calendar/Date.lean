import RecordQuery.Text.Digits

/-!
# Calendar dates

A date of the proleptic Gregorian calendar, from the first day of the year −262143 to the last of
the year 262142.  Dates are ordered by `Date.index`, which packs year, month and day into one
integer, so that order and equality of dates are those of their indices.
-/

namespace RecordQuery

namespace Calendar

/-- The year has a twenty-ninth of February. -/
def isLeapYear (year : Int) : Bool :=
  year % 4 == 0 && (year % 100 != 0 || year % 400 == 0)

/-- The number of days of a month, zero for what is no month. -/
def daysInMonth (year : Int) (month : Nat) : Nat :=
  match month with
  | 1 | 3 | 5 | 7 | 8 | 10 | 12 => 31
  | 4 | 6 | 9 | 11 => 30
  | 2 => if isLeapYear year then 29 else 28
  | _ => 0

theorem daysInMonth_le (year : Int) (month : Nat) : daysInMonth year month ≤ 31 := by
  unfold daysInMonth
  split <;> first | omega | (split <;> omega)

/-- The first year that has dates. -/
def firstYear : Int := -262143

/-- The last year that has dates. -/
def lastYear : Int := 262142

end Calendar

open Calendar

/-- A date of the proleptic Gregorian calendar. -/
structure Date where
  /-- The year, astronomically numbered. -/
  year : Int
  /-- The month, from one. -/
  month : Nat
  /-- The day of the month, from one. -/
  day : Nat
  /-- The year is in range. -/
  year_mem : firstYear ≤ year ∧ year ≤ lastYear := by decide
  /-- The month is one of twelve. -/
  month_mem : 1 ≤ month ∧ month ≤ 12 := by decide
  /-- The month has the day. -/
  day_mem : 1 ≤ day ∧ day ≤ daysInMonth year month := by decide
  deriving DecidableEq, Repr

namespace Date

/-- The date with the given parts, if the calendar has it. -/
def ofParts? (year : Int) (month day : Nat) : Option Date :=
  if valid : (firstYear ≤ year ∧ year ≤ lastYear) ∧ (1 ≤ month ∧ month ≤ 12) ∧
      (1 ≤ day ∧ day ≤ daysInMonth year month) then
    some ⟨year, month, day, valid.1, valid.2.1, valid.2.2⟩
  else
    none

/-- The day before, except for the first date of all. -/
def previous? (date : Date) : Option Date :=
  if 1 < date.day then ofParts? date.year date.month (date.day - 1)
  else if 1 < date.month then
    ofParts? date.year (date.month - 1) (daysInMonth date.year (date.month - 1))
  else
    ofParts? (date.year - 1) 12 31

/-- The day after, except for the last date of all. -/
def next? (date : Date) : Option Date :=
  if date.day < daysInMonth date.year date.month then
    ofParts? date.year date.month (date.day + 1)
  else if date.month < 12 then ofParts? date.year (date.month + 1) 1
  else ofParts? (date.year + 1) 1 1

/-- The date as one integer: thirty-two days to a month, sixteen months to a year. -/
def index (date : Date) : Int := (date.year * 16 + date.month) * 32 + date.day

theorem index_injective {a b : Date} (same : a.index = b.index) : a = b := by
  have a_day := Nat.le_trans a.day_mem.2 (daysInMonth_le a.year a.month)
  have b_day := Nat.le_trans b.day_mem.2 (daysInMonth_le b.year b.month)
  have a_month := a.month_mem
  have b_month := b.month_mem
  unfold index at same
  obtain ⟨a_year, a_month', a_day', _, _, _⟩ := a
  obtain ⟨b_year, b_month', b_day', _, _, _⟩ := b
  simp only at *
  obtain rfl : a_year = b_year := by omega
  obtain rfl : a_month' = b_month' := by omega
  obtain rfl : a_day' = b_day' := by omega
  rfl

/-- A year is written with four digits, and with a sign outside the years 0 to 9999. -/
def yearText (year : Int) : List Char :=
  if 0 ≤ year ∧ year ≤ 9999 then Text.padded 4 year.toNat
  else (if year < 0 then '-' else '+') :: Text.padded 4 year.natAbs

/-- Year, month and day, with dashes between. -/
def text (date : Date) : List Char :=
  yearText date.year ++ '-' :: (Text.padded 2 date.month ++ '-' :: Text.padded 2 date.day)

end Date
end RecordQuery
