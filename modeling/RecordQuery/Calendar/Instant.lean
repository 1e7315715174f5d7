import RecordQuery.Calendar.Date
import RecordQuery.Calendar.TimeOfDay

/-!
# Instants

An instant is a date and a time of day in universal time.  A local time is brought to universal
time by its offset, a whole number of minutes shorter than a day, so at most one day is crossed.
-/

namespace RecordQuery

/-- A point in time, in universal time. -/
structure Instant where
  /-- The date in universal time. -/
  date : Date
  /-- The time of day in universal time. -/
  time : TimeOfDay
  deriving DecidableEq, Repr

namespace Instant

/-- The instant at which clocks that are `offset` minutes ahead of universal time show a date and
a time of day.  There is none for an offset of a day or more or beyond the range of dates. -/
def ofLocal? (date : Date) (time : TimeOfDay) (offset : Int) : Option Instant :=
  if offset.natAbs < 1440 then do
    let minutes := (time.minutes : Int) - offset
    let date ←
      if minutes < 0 then date.previous?
      else if 1440 ≤ minutes then date.next?
      else some date
    return ⟨date, time.atMinute (minutes % 1440).toNat⟩
  else
    none

/-- The instant as one integer, in which the date counts before the time of day. -/
def index (instant : Instant) : Int :=
  instant.date.index * (86400 * 2000000000) + instant.time.index

theorem index_injective {a b : Instant} (same : a.index = b.index) : a = b := by
  have a_time := a.time.index_lt
  have b_time := b.time.index_lt
  obtain ⟨a_date, a_time'⟩ := a
  obtain ⟨b_date, b_time'⟩ := b
  simp only [index] at *
  obtain rfl : a_date = b_date := Date.index_injective (by omega)
  obtain rfl : a_time' = b_time' := TimeOfDay.index_injective (by omega)
  rfl

/-- The date, the letter `T`, the time of day and the letter `Z`. -/
def text (instant : Instant) : List Char :=
  instant.date.text ++ 'T' :: (instant.time.text ++ ['Z'])

end Instant
end RecordQuery
