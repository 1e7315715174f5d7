import RecordQuery.Proofs.Calendar.Written

/-!
# Stored dates, times and instants read back

The readers of stored values are lenient about blanks and seconds, but they take the text of every
date, time of day and instant for what it was written for, in all years that have dates.
-/

namespace RecordQuery

open Calendar Text

theorem Date.readStored?_text (date : Date) : readStored? date.text = some date := by
  have parts := readDateParts?_text true date []
  rw [List.append_nil] at parts
  simp [readStored?, parts, complete, skipBlank]

theorem TimeOfDay.readStored?_text (time : TimeOfDay) : readStored? time.text = some time := by
  have small : time.nano % 1000000000 < 1000000000 := Nat.mod_lt _ (by decide)
  have second := readSecond?_text time.writtenSecond_lt small (ends_nil _) (by simp)
  rw [List.append_nil] at second
  have separator (tail : List Char) : skipBlank (':' :: tail) = ':' :: tail :=
    skipBlank_cons rfl tail
  simp only [readStored?, text, readPart?_padded time.hour_lt_hundred,
    readPart?_padded time.minute_lt_hundred, separator, readChar?_cons, second,
    Option.bind_eq_bind, Option.bind_some, ofParts?_parts]
  rfl

theorem Instant.readStored?_text (instant : Instant) : readStored? instant.text = some instant := by
  have date := Date.readDateParts?_text true instant.date ('T' :: (instant.time.text ++ ['Z']))
  have zone : Ends Char.isDigit ['Z'] := ends_cons.mpr (by decide)
  have time := TimeOfDay.readTimeParts?_text true instant.time zone (by decide)
  simp only [readStored?, text, date, time, readDateEnd?_cons, Option.bind_eq_bind,
    Option.bind_some]
  exact ofLocal?_zero instant

end RecordQuery
