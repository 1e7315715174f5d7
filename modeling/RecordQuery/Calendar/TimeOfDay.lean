import RecordQuery.Text.Digits

/-!
# Times of day

A time of day counts hours, minutes, seconds and nanoseconds.  A leap second is the second 59 of
any minute with a thousand million nanoseconds or more; it is written as second 60 and falls
between the rest of its minute and the next one.
-/

namespace RecordQuery

/-- A time of day, possibly within a leap second. -/
structure TimeOfDay where
  /-- Full hours since midnight. -/
  hour : Nat
  /-- Full minutes of the hour. -/
  minute : Nat
  /-- Full seconds of the minute, 59 in a leap second too. -/
  second : Nat
  /-- Nanoseconds of the second; those of a leap second start at a thousand million. -/
  nano : Nat
  /-- The hour is one of a day. -/
  hour_lt : hour < 24 := by decide
  /-- The minute is one of an hour. -/
  minute_lt : minute < 60 := by decide
  /-- The second is one of a minute. -/
  second_lt : second < 60 := by decide
  /-- A leap second is as long as any other. -/
  nano_lt : nano < 2000000000 := by decide
  /-- Only the last second of a minute is followed by a leap second. -/
  leap : 1000000000 ≤ nano → second = 59 := by decide
  deriving DecidableEq, Repr

namespace TimeOfDay

/-- The time with the given parts as they are written, second 60 standing for a leap second. -/
def ofParts? (hour minute second nano : Nat) : Option TimeOfDay :=
  if valid : hour < 24 ∧ minute < 60 ∧ nano < 1000000000 then
    if regular : second < 60 then
      some ⟨hour, minute, second, nano, valid.1, valid.2.1, regular, by omega, by omega⟩
    else if second = 60 then
      some ⟨hour, minute, 59, 1000000000 + nano, valid.1, valid.2.1, by omega, by omega, by omega⟩
    else
      none
  else
    none

/-- Full minutes since midnight. -/
def minutes (time : TimeOfDay) : Nat := time.hour * 60 + time.minute

/-- The same time at another minute of the day, counted around midnight. -/
def atMinute (time : TimeOfDay) (minute : Nat) : TimeOfDay :=
  { time with
    hour := minute / 60 % 24
    minute := minute % 60
    hour_lt := Nat.mod_lt _ (by decide)
    minute_lt := Nat.mod_lt _ (by decide) }

/-- The time as one number: nanoseconds, with room for a leap second after every second. -/
def index (time : TimeOfDay) : Nat :=
  ((time.hour * 60 + time.minute) * 60 + time.second) * 2000000000 + time.nano

theorem index_injective {a b : TimeOfDay} (same : a.index = b.index) : a = b := by
  obtain ⟨a_hour, a_minute, a_second, a_nano, _, _, _, _, _⟩ := a
  obtain ⟨b_hour, b_minute, b_second, b_nano, _, _, _, _, _⟩ := b
  simp only [index] at same
  obtain rfl : a_nano = b_nano := by omega
  obtain rfl : a_second = b_second := by omega
  obtain rfl : a_minute = b_minute := by omega
  obtain rfl : a_hour = b_hour := by omega
  rfl

/-- A day has so many places for times. -/
theorem index_lt (time : TimeOfDay) : time.index < 86400 * 2000000000 := by
  have hour_lt := time.hour_lt
  have minute_lt := time.minute_lt
  have second_lt := time.second_lt
  have nano_lt := time.nano_lt
  unfold index
  omega

/-- The fraction of a second after its point: none, three, six or nine digits, as many as the
nanoseconds need. -/
def fractionText (nano : Nat) : List Char :=
  if nano = 0 then []
  else if nano % 1000000 = 0 then '.' :: Text.padded 3 (nano / 1000000)
  else if nano % 1000 = 0 then '.' :: Text.padded 6 (nano / 1000)
  else '.' :: Text.padded 9 nano

/-- Hour, minute and second with colons between, and the fraction if there is one. -/
def text (time : TimeOfDay) : List Char :=
  let second := time.second + time.nano / 1000000000
  Text.padded 2 time.hour ++ ':' :: (Text.padded 2 time.minute ++ ':' :: (Text.padded 2 second ++
    fractionText (time.nano % 1000000000)))

end TimeOfDay
end RecordQuery
