import RecordQuery.Proofs.Calendar.Refusal

/-!
# Written dates, times and instants read back

Every date and every time of day is read back from its text.  An instant is read back if its year
has four digits; the signed year of any other instant is refused by all readers of a query.
-/

namespace RecordQuery

open Calendar Text

namespace Calendar

theorem skipBlank_padded (width n : Nat) (rest : List Char) :
    skipBlank (padded width n ++ rest) = padded width n ++ rest := by
  obtain ⟨c, tail, digits, digit⟩ := exists_padded_eq width n
  rw [digits, List.cons_append]
  exact skipBlank_cons (isBlank_of_isDigit digit) _

theorem readPart?_padded {n : Nat} (small : n < 100) (rest : List Char) :
    readPart? (padded 2 n ++ rest) = some (n, rest) := by
  rw [readPart?, skipBlank_padded]
  exact readDigits?_padded_exact (by decide) small (by decide)

@[simp]
theorem readChar?_cons (c : Char) (rest : List Char) : readChar? c (c :: rest) = some rest := by
  simp [readChar?]

/-- Where blanks may stand before a separator, there need be none. -/
theorem gap_cons {c : Char} (solid : isBlank c = false) (lenient : Bool) (rest : List Char) :
    gap lenient (c :: rest) = c :: rest := by
  cases lenient with
  | true => exact skipBlank_cons solid rest
  | false => rfl

/-! ## Fractions of a second -/

theorem readFraction?_padded {width n : Nat} (positive : 0 < width) (fits : width ≤ 9)
    (small : n < 10 ^ width) {rest : List Char} (ends : Ends Char.isDigit rest) :
    readFraction? ('.' :: (padded width n ++ rest)) = some (n * 10 ^ (9 - width), rest) := by
  have length := length_padded positive small
  have read : readDigits? 1 (some 9) (padded width n ++ rest) = some (n, rest) := by
    rw [readDigits?_append (fun c => isDigit_of_mem_padded) (by omega)
      (fun limit most => by rw [length, ← Option.some.inj most]; exact fits) (.inl ends),
      ofDigitChars_padded]
  have stopped : rest.dropWhile Char.isDigit = rest := by
    cases rest with
    | nil => rfl
    | cons c rest => exact List.dropWhile_cons_of_neg (by simp [ends_cons.mp ends])
  have count : (padded width n ++ rest).length - rest.length = width := by
    rw [List.length_append, length]
    omega
  simp only [readFraction?, read, Option.bind_eq_bind, Option.bind_some, count, stopped,
    Nat.pow_eq, Option.pure_def]

theorem readFraction?_text {nano : Nat} (small : nano < 1000000000) {rest : List Char}
    (ends : Ends Char.isDigit rest) (noPoint : rest.head? ≠ some '.') :
    readFraction? (TimeOfDay.fractionText nano ++ rest) = some (nano, rest) := by
  rw [TimeOfDay.fractionText]
  split
  · rename_i zero
    subst zero
    rw [List.nil_append, readFraction?]
    intro tail pointed
    simp [pointed] at noPoint
  · split
    · rw [List.cons_append, readFraction?_padded (by decide) (by decide) (by omega) ends]
      congr 2
      omega
    · split
      · rw [List.cons_append, readFraction?_padded (by decide) (by decide) (by omega) ends]
        congr 2
        omega
      · rw [List.cons_append, readFraction?_padded (by decide) (by decide) (by omega) ends]
        congr 2
        omega

theorem readSecond?_text {second nano : Nat} (fits : second < 100) (small : nano < 1000000000)
    {rest : List Char} (ends : Ends Char.isDigit rest) (noPoint : rest.head? ≠ some '.') :
    readSecond? (padded 2 second ++ (TimeOfDay.fractionText nano ++ rest)) =
      some (second, nano, rest) := by
  simp only [readSecond?, readPart?_padded fits, readFraction?_text small ends noPoint,
    Option.bind_eq_bind, Option.bind_some, Option.pure_def]

end Calendar

/-! ## Dates -/

namespace Date

theorem ofParts?_parts (date : Date) : ofParts? date.year date.month date.day = some date :=
  dif_pos ⟨date.year_mem, date.month_mem, date.day_mem⟩

theorem day_lt (date : Date) : date.day < 100 := by
  have most := date.day_mem.2.trans (daysInMonth_le date.year date.month)
  omega

theorem month_lt (date : Date) : date.month < 100 := by
  have most := date.month_mem.2
  omega

theorem readYear?_padded {n : Nat} (small : n < 10000) (rest : List Char) :
    readYear? (padded 4 n ++ rest) = some ((n : Int), rest) := by
  have read : readDigits? 1 (some 4) (padded 4 n ++ rest) = some (n, rest) :=
    readDigits?_padded_exact (by decide) small (by decide)
  obtain ⟨c, tail, digits, digit⟩ := exists_padded_eq 4 n
  rw [readYear?, skipBlank_padded]
  split
  · rename_i signed
    rw [digits] at signed
    rw [(List.cons.inj signed).1] at digit
    exact absurd digit (by decide)
  · rename_i signed
    rw [digits] at signed
    rw [(List.cons.inj signed).1] at digit
    exact absurd digit (by decide)
  · rw [read]
    rfl

theorem readYear?_yearText (year : Int) {rest : List Char} (ends : Ends Char.isDigit rest) :
    readYear? (yearText year ++ rest) = some (year, rest) := by
  have digits : readDigits? 1 none (padded 4 year.natAbs ++ rest) = some (year.natAbs, rest) :=
    readDigits?_padded (by decide) ends
  rw [yearText]
  split
  · rw [readYear?_padded (by omega)]
    congr 2
    omega
  · split
    · rw [List.cons_append, readYear?, skipBlank_cons rfl]
      simp only [digits, Option.map_some]
      congr 2
      omega
    · rw [List.cons_append, readYear?, skipBlank_cons rfl]
      simp only [digits, Option.map_some]
      congr 2
      omega

theorem readDateParts?_text (lenient : Bool) (date : Date) (rest : List Char) :
    readDateParts? lenient (date.text ++ rest) = some (date, rest) := by
  have dash (tail : List Char) : Ends Char.isDigit ('-' :: tail) := ends_cons.mpr rfl
  have separator (tail : List Char) : gap lenient ('-' :: tail) = '-' :: tail :=
    gap_cons rfl lenient tail
  simp only [readDateParts?, text, List.append_assoc, List.cons_append,
    readYear?_yearText date.year (dash _), readPart?_padded date.month_lt,
    readPart?_padded date.day_lt, separator, readChar?_cons, Option.bind_eq_bind, Option.bind_some,
    ofParts?_parts, Option.pure_def]

/-- The characters of a date. -/
theorem mem_text {date : Date} {c : Char} (member : c ∈ date.text) :
    c.isDigit = true ∨ c = '-' ∨ c = '+' := by
  simp only [text, yearText, List.mem_append, List.mem_cons] at member
  rcases member with year | rfl | month | rfl | day
  · split at year
    · exact .inl (isDigit_of_mem_padded year)
    · rcases List.mem_cons.mp year with rfl | digit
      · split
        · exact .inr (.inl rfl)
        · exact .inr (.inr rfl)
      · exact .inl (isDigit_of_mem_padded digit)
  · exact .inr (.inl rfl)
  · exact .inl (isDigit_of_mem_padded month)
  · exact .inr (.inl rfl)
  · exact .inl (isDigit_of_mem_padded day)

theorem read?_text (date : Date) : read? date.text = some date := by
  have parts := readDateParts?_text false date []
  rw [List.append_nil] at parts
  simp [read?, parts, complete]

end Date

/-! ## Times of day -/

namespace TimeOfDay

theorem hour_lt_hundred (time : TimeOfDay) : time.hour < 100 :=
  time.hour_lt.trans (by decide)

theorem minute_lt_hundred (time : TimeOfDay) : time.minute < 100 :=
  time.minute_lt.trans (by decide)

/-- The second that a time is written with has two digits, in a leap second too. -/
theorem writtenSecond_lt (time : TimeOfDay) : time.second + time.nano / 1000000000 < 100 := by
  have second_lt := time.second_lt
  have nano_lt := time.nano_lt
  omega

/-- The parts that a time is written with stand for the time. -/
theorem ofParts?_parts (time : TimeOfDay) :
    ofParts? time.hour time.minute (time.second + time.nano / 1000000000)
      (time.nano % 1000000000) = some time := by
  obtain ⟨hour, minute, second, nano, hour_lt, minute_lt, second_lt, nano_lt, leap⟩ := time
  simp only [ofParts?]
  rw [dif_pos ⟨hour_lt, minute_lt, Nat.mod_lt _ (by decide)⟩]
  by_cases regular : nano < 1000000000
  · have whole : nano / 1000000000 = 0 := Nat.div_eq_of_lt regular
    simp [whole, Nat.mod_eq_of_lt regular, second_lt]
  · obtain rfl := leap (by omega)
    have whole : nano / 1000000000 = 1 := by omega
    have part : 1000000000 + nano % 1000000000 = nano := by omega
    simp [whole, part]

theorem readTimeParts?_text (lenient : Bool) (time : TimeOfDay) {rest : List Char}
    (ends : Ends Char.isDigit rest) (noPoint : rest.head? ≠ some '.') :
    readTimeParts? lenient (time.text ++ rest) = some (time, rest) := by
  have small : time.nano % 1000000000 < 1000000000 := Nat.mod_lt _ (by decide)
  have second := readSecond?_text time.writtenSecond_lt small ends noPoint
  have separator (tail : List Char) : gap lenient (':' :: tail) = ':' :: tail :=
    gap_cons rfl lenient tail
  simp only [readTimeParts?, text, List.append_assoc, List.cons_append,
    readPart?_padded time.hour_lt_hundred, readPart?_padded time.minute_lt_hundred, second,
    separator, readChar?_cons, Option.bind_eq_bind, Option.bind_some, ofParts?_parts,
    Option.pure_def]

theorem mem_fractionText {nano : Nat} {c : Char} (member : c ∈ fractionText nano) :
    c.isDigit = true ∨ c = '.' := by
  unfold fractionText at member
  split at member
  · simp at member
  · have digits {width n : Nat} (inside : c ∈ '.' :: padded width n) :
        c.isDigit = true ∨ c = '.' := by
      rcases List.mem_cons.mp inside with rfl | digit
      · exact .inr rfl
      · exact .inl (isDigit_of_mem_padded digit)
    split at member
    · exact digits member
    · split at member
      · exact digits member
      · exact digits member

/-- The characters of a time of day. -/
theorem mem_text {time : TimeOfDay} {c : Char} (member : c ∈ time.text) :
    c.isDigit = true ∨ c = ':' ∨ c = '.' := by
  simp only [text, List.mem_append, List.mem_cons] at member
  rcases member with hour | rfl | minute | rfl | second | fraction
  · exact .inl (isDigit_of_mem_padded hour)
  · exact .inr (.inl rfl)
  · exact .inl (isDigit_of_mem_padded minute)
  · exact .inr (.inl rfl)
  · exact .inl (isDigit_of_mem_padded second)
  · rcases mem_fractionText fraction with digit | point
    · exact .inl digit
    · exact .inr (.inr point)

theorem read?_text (time : TimeOfDay) : read? time.text = some time := by
  have parts := readTimeParts?_text false time (ends_nil _) (by simp)
  rw [List.append_nil] at parts
  simp [read?, parts, complete]

end TimeOfDay

/-! ## Instants -/

namespace Instant

/-- The year of the instant has four digits. -/
def HasShortYear (instant : Instant) : Prop := 0 ≤ instant.date.year ∧ instant.date.year ≤ 9999

instance (instant : Instant) : Decidable instant.HasShortYear :=
  inferInstanceAs (Decidable (_ ∧ _))

theorem ofLocal?_zero (instant : Instant) :
    ofLocal? instant.date instant.time 0 = some instant := by
  obtain ⟨date, time⟩ := instant
  have hour_lt := time.hour_lt
  have minute_lt := time.minute_lt
  have minutes : time.minutes = time.hour * 60 + time.minute := rfl
  have notBefore : ¬ (time.minutes : Int) - 0 < 0 := by omega
  have notAfter : ¬ 1440 ≤ (time.minutes : Int) - 0 := by omega
  have same : time.atMinute (((time.minutes : Int) - 0) % 1440).toNat = time := by
    have minute : (((time.minutes : Int) - 0) % 1440).toNat = time.hour * 60 + time.minute := by
      omega
    have hours : (time.hour * 60 + time.minute) / 60 % 24 = time.hour := by omega
    have rest : (time.hour * 60 + time.minute) % 60 = time.minute := by omega
    simp only [TimeOfDay.atMinute, minute, hours, rest]
  simp only [ofLocal?, notBefore, notAfter, same, if_false, Option.bind_eq_bind, Option.bind_some,
    Option.pure_def]
  rfl

private theorem bind_eq_some {α β : Type} {first : Option α} {value : α} {next : α → Option β}
    {result : β} (found : first = some value) (continued : next value = some result) :
    (first >>= next) = some result := by
  rw [found]
  exact continued

theorem readDateEnd?_cons (rest : List Char) : readDateEnd? ('T' :: rest) = some rest := by
  rw [readDateEnd?, if_pos (Or.inl rfl)]

private theorem offset : (readOffset? (readChar? ':') ['Z']).bind complete = some 0 := by
  rw [readOffset?, if_pos (Or.inl rfl)]
  rfl

theorem read?_text {instant : Instant} (short : instant.HasShortYear) :
    read? instant.text = some instant := by
  have full {n : Nat} (small : n < 100) (rest : List Char) :
      readDigits? 2 (some 2) (padded 2 n ++ rest) = some (n, rest) :=
    readDigits?_padded_exact (by decide) small (by decide)
  have year (rest : List Char) : readDigits? 4 (some 4)
      (padded 4 instant.date.year.toNat ++ rest) = some (instant.date.year.toNat, rest) :=
    readDigits?_padded_exact (by decide) (by unfold HasShortYear at short; omega) (by decide)
  have fraction : readFraction? (TimeOfDay.fractionText (instant.time.nano % 1000000000) ++ ['Z']) =
      some (instant.time.nano % 1000000000, ['Z']) :=
    readFraction?_text (Nat.mod_lt _ (by decide)) (ends_cons.mpr (by decide)) (by decide)
  have positive : ((instant.date.year.toNat : Nat) : Int) = instant.date.year :=
    Int.toNat_of_nonneg short.1
  have yearText : Date.yearText instant.date.year = padded 4 instant.date.year.toNat :=
    if_pos short
  simp only [text, Date.text, TimeOfDay.text, yearText, List.append_assoc, List.cons_append]
  rw [read?]
  refine bind_eq_some (year _) ?_
  refine bind_eq_some (readChar?_cons '-' _) (bind_eq_some (full instant.date.month_lt _) ?_)
  refine bind_eq_some (readChar?_cons '-' _) (bind_eq_some (full instant.date.day_lt _) ?_)
  refine bind_eq_some (readDateEnd?_cons _)
    (bind_eq_some (full instant.time.hour_lt_hundred _) ?_)
  refine bind_eq_some (readChar?_cons ':' _)
    (bind_eq_some (full instant.time.minute_lt_hundred _) ?_)
  refine bind_eq_some (readChar?_cons ':' _)
    (bind_eq_some (full instant.time.writtenSecond_lt _) ?_)
  refine bind_eq_some fraction (bind_eq_some offset ?_)
  refine bind_eq_some (positive ▸ Date.ofParts?_parts _) ?_
  exact bind_eq_some (TimeOfDay.ofParts?_parts _) (ofLocal?_zero instant)

/-- A year that does not have four digits is written with a sign. -/
theorem exists_text_eq {instant : Instant} (long : ¬ instant.HasShortYear) :
    ∃ sign tail, (sign = '-' ∨ sign = '+') ∧
      instant.text = sign :: (padded 4 instant.date.year.natAbs ++ '-' :: tail) := by
  unfold HasShortYear at long
  simp only [text, Date.text, Date.yearText, if_neg long, List.cons_append, List.append_assoc]
  split
  · exact ⟨'-', _, .inl rfl, rfl⟩
  · exact ⟨'+', _, .inr rfl, rfl⟩

/-- No reader of dates takes the text of an instant. -/
theorem dateRead?_text (instant : Instant) : Date.read? instant.text = none := by
  have parts := Date.readDateParts?_text false instant.date ('T' :: (instant.time.text ++ ['Z']))
  simp [Date.read?, text, parts, complete]

end Instant
end RecordQuery
