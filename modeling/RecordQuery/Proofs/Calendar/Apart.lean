import RecordQuery.Proofs.Calendar.Refusal

/-!
# No text is two of date, instant and time

The readers are lenient, with short months, signed years and fractions, but each of them goes by its
separators.  What is read of a date holds no colon, and what is read of a time of day no dash, while
an instant has both.  So at most one of the three takes a text.
-/

namespace RecordQuery

open Calendar Text

namespace Calendar

/-! ## What is read does not hold a character -/

/-- What is read of the text before the rest does not hold the character. -/
def ReadsWithout (c : Char) (text rest : List Char) : Prop :=
  ∃ front, text = front ++ rest ∧ c ∉ front

variable {c : Char} {text middle rest : List Char}

theorem ReadsWithout.refl (c : Char) (text : List Char) : ReadsWithout c text text :=
  ⟨[], rfl, List.not_mem_nil⟩

theorem ReadsWithout.trans (first : ReadsWithout c text middle)
    (second : ReadsWithout c middle rest) : ReadsWithout c text rest := by
  obtain ⟨front, rfl, noFront⟩ := first
  obtain ⟨later, rfl, noLater⟩ := second
  refine ⟨front ++ later, (List.append_assoc _ _ _).symm, fun member => ?_⟩
  rcases List.mem_append.mp member with inside | inside
  · exact noFront inside
  · exact noLater inside

/-- Where a text is read to its end, the whole of it does not hold the character. -/
theorem ReadsWithout.notMem (reads : ReadsWithout c text []) : c ∉ text := by
  obtain ⟨front, rfl, noFront⟩ := reads
  rwa [List.append_nil]

theorem ReadsWithout.cons {d : Char} (other : c ≠ d) (reads : ReadsWithout c text rest) :
    ReadsWithout c (d :: text) rest := by
  obtain ⟨front, rfl, noFront⟩ := reads
  exact ⟨d :: front, rfl, List.not_mem_cons_of_ne_of_not_mem other noFront⟩

/-- A run of a class holds no character outside the class. -/
theorem readsWithout_dropWhile {member : Char → Bool} (outside : member c = false)
    (text : List Char) : ReadsWithout c text (text.dropWhile member) := by
  refine ⟨text.takeWhile member, List.takeWhile_append_dropWhile.symm, fun taken => ?_⟩
  rw [List.mem_takeWhile_imp taken] at outside
  cases outside

theorem readsWithout_skipBlank (solid : isBlank c = false) (text : List Char) :
    ReadsWithout c text (skipBlank text) :=
  readsWithout_dropWhile solid text

theorem readsWithout_readDigits? (noDigit : c.isDigit = false) {least : Nat} {most : Option Nat}
    {n : Nat} (read : readDigits? least most text = some (n, rest)) : ReadsWithout c text rest := by
  have taken {window : List Char} (front : window <+: text) :
      ReadsWithout c text (text.drop (window.takeWhile Char.isDigit).length) := by
    obtain ⟨tail, split⟩ := (List.takeWhile_prefix Char.isDigit).trans front
    refine ⟨window.takeWhile Char.isDigit, ?_, fun inside => ?_⟩
    · rw [← split, List.drop_left]
    · rw [List.mem_takeWhile_imp inside] at noDigit
      cases noDigit
  simp only [readDigits?, Option.ite_none_right_eq_some, Option.some.injEq, Prod.mk.injEq] at read
  obtain ⟨-, -, rfl⟩ := read
  cases most with
  | none => exact taken List.prefix_rfl
  | some most => exact taken (List.take_prefix most text)

theorem readsWithout_readChar? {d : Char} (other : c ≠ d) (read : readChar? d text = some rest) :
    ReadsWithout c text rest := by
  cases text with
  | nil => cases read
  | cons first text =>
      obtain ⟨rfl, same⟩ := (Option.ite_none_right_eq_some ..).mp read
      obtain rfl := Option.some.inj same
      exact (ReadsWithout.refl c text).cons other

section Parts

variable (noDigit : c.isDigit = false) (solid : isBlank c = false)

include noDigit solid

theorem readsWithout_readPart? {n : Nat} (read : readPart? text = some (n, rest)) :
    ReadsWithout c text rest :=
  (readsWithout_skipBlank solid text).trans (readsWithout_readDigits? noDigit read)

theorem readsWithout_readYear? (noSign : c ≠ '-' ∧ c ≠ '+') {year : Int}
    (read : readYear? text = some (year, rest)) : ReadsWithout c text rest := by
  refine (readsWithout_skipBlank solid text).trans ?_
  unfold readYear? at read
  split at read
  · rename_i signed
    obtain ⟨⟨n, unread⟩, digits, same⟩ := Option.map_eq_some_iff.mp read
    obtain ⟨-, rfl⟩ := Prod.mk.inj same
    rw [signed]
    exact (readsWithout_readDigits? noDigit digits).cons noSign.1
  · rename_i signed
    obtain ⟨⟨n, unread⟩, digits, same⟩ := Option.map_eq_some_iff.mp read
    obtain ⟨-, rfl⟩ := Prod.mk.inj same
    rw [signed]
    exact (readsWithout_readDigits? noDigit digits).cons noSign.2
  · obtain ⟨⟨n, unread⟩, digits, same⟩ := Option.map_eq_some_iff.mp read
    obtain ⟨-, rfl⟩ := Prod.mk.inj same
    exact readsWithout_readDigits? noDigit digits

omit solid in
theorem readsWithout_readFraction? (noPoint : c ≠ '.') {nano : Nat}
    (read : readFraction? text = some (nano, rest)) : ReadsWithout c text rest := by
  unfold readFraction? at read
  split at read
  · obtain ⟨⟨value, unread⟩, digits, same⟩ := Option.bind_eq_some_iff.mp read
    obtain ⟨-, rfl⟩ := Prod.mk.inj (Option.some.inj same)
    exact ((readsWithout_readDigits? noDigit digits).trans
      (readsWithout_dropWhile noDigit unread)).cons noPoint
  · obtain ⟨-, rfl⟩ := Prod.mk.inj (Option.some.inj read)
    exact .refl c text

theorem readsWithout_readDateParts? (noSign : c ≠ '-' ∧ c ≠ '+') {date : Date}
    (read : readDateParts? false text = some (date, rest)) : ReadsWithout c text rest := by
  simp only [readDateParts?, gap, Option.bind_eq_bind, Option.bind_eq_some_iff, Bool.false_eq_true,
    if_false] at read
  obtain ⟨⟨year, afterYear⟩, yearRead, afterFirst, firstDash, ⟨month, afterMonth⟩, monthRead,
    afterSecond, secondDash, ⟨day, afterDay⟩, dayRead, found, -, same⟩ := read
  obtain ⟨-, rfl⟩ := Prod.mk.inj (Option.some.inj same)
  have toYear := readsWithout_readYear? noDigit solid noSign yearRead
  have toMonth := (readsWithout_readChar? noSign.1 firstDash).trans
    (readsWithout_readPart? noDigit solid monthRead)
  have toDay := (readsWithout_readChar? noSign.1 secondDash).trans
    (readsWithout_readPart? noDigit solid dayRead)
  exact toYear.trans (toMonth.trans toDay)

theorem readsWithout_readTimeParts? (noColon : c ≠ ':') (noPoint : c ≠ '.') {time : TimeOfDay}
    (read : readTimeParts? false text = some (time, rest)) : ReadsWithout c text rest := by
  simp only [readTimeParts?, readSecond?, gap, Option.bind_eq_bind, Option.bind_eq_some_iff,
    Bool.false_eq_true, if_false] at read
  obtain ⟨⟨hour, afterHour⟩, hourRead, afterFirst, firstColon, ⟨minute, afterMinute⟩, minuteRead,
    afterSecond, secondColon, ⟨second, nano, unread⟩, ⟨⟨second', afterSeconds⟩, secondRead,
    ⟨nano', afterFraction⟩, fractionRead, same'⟩, found, -, same⟩ := read
  obtain ⟨rfl, rfl, rfl⟩ : second' = second ∧ nano' = nano ∧ afterFraction = unread := by
    simpa using same'
  obtain ⟨-, rfl⟩ := Prod.mk.inj (Option.some.inj same)
  have toHour := readsWithout_readPart? noDigit solid hourRead
  have toMinute := (readsWithout_readChar? noColon firstColon).trans
    (readsWithout_readPart? noDigit solid minuteRead)
  have toSecond := (readsWithout_readChar? noColon secondColon).trans
    (readsWithout_readPart? noDigit solid secondRead)
  exact toHour.trans (toMinute.trans
    (toSecond.trans (readsWithout_readFraction? noDigit noPoint fractionRead)))

end Parts

/-! ## What is left is part of the text -/

theorem suffix_of_readDigits? {least : Nat} {most : Option Nat} {n : Nat}
    (read : readDigits? least most text = some (n, rest)) : rest <:+ text := by
  simp only [readDigits?, Option.ite_none_right_eq_some, Option.some.injEq, Prod.mk.injEq] at read
  obtain ⟨-, -, rfl⟩ := read
  exact List.drop_suffix _ text

theorem suffix_of_dropped {p : Prop} [Decidable p] {first : Char}
    (read : (if p then some text else none) = some rest) : rest <:+ first :: text := by
  obtain ⟨-, same⟩ := (Option.ite_none_right_eq_some ..).mp read
  obtain rfl := Option.some.inj same
  exact List.suffix_cons first text

theorem suffix_of_readChar? {d : Char} (read : readChar? d text = some rest) : rest <:+ text := by
  cases text with
  | nil => cases read
  | cons first text => exact suffix_of_dropped read

theorem suffix_of_readDateEnd? (read : readDateEnd? text = some rest) : rest <:+ text := by
  cases text with
  | nil => cases read
  | cons first text => exact suffix_of_dropped read

theorem complete_eq_some_iff {α : Type} {result : α × List Char} {value : α} :
    complete result = some value ↔ result = (value, []) := by
  obtain ⟨found, rest⟩ := result
  cases rest <;> simp [complete]

end Calendar

/-! ## The three readers -/

variable {text : List Char}

theorem Date.colon_notMem {date : Date} (read : read? text = some date) : ':' ∉ text := by
  obtain ⟨parts, partsRead, whole⟩ := Option.bind_eq_some_iff.mp read
  obtain rfl := complete_eq_some_iff.mp whole
  exact (readsWithout_readDateParts? (by decide) (by decide) (by decide) partsRead).notMem

theorem TimeOfDay.dash_notMem {time : TimeOfDay} (read : read? text = some time) : '-' ∉ text := by
  obtain ⟨parts, partsRead, whole⟩ := Option.bind_eq_some_iff.mp read
  obtain rfl := complete_eq_some_iff.mp whole
  exact (readsWithout_readTimeParts? (by decide) (by decide) (by decide) (by decide)
    partsRead).notMem

theorem Instant.colon_mem {instant : Instant} (read : read? text = some instant) : ':' ∈ text := by
  obtain ⟨⟨year, afterYear⟩, yearRead, read⟩ := Option.bind_eq_some_iff.mp read
  obtain ⟨afterFirst, firstDash, read⟩ := Option.bind_eq_some_iff.mp read
  obtain ⟨⟨month, afterMonth⟩, monthRead, read⟩ := Option.bind_eq_some_iff.mp read
  obtain ⟨afterSecond, secondDash, read⟩ := Option.bind_eq_some_iff.mp read
  obtain ⟨⟨day, afterDay⟩, dayRead, read⟩ := Option.bind_eq_some_iff.mp read
  obtain ⟨afterEnd, dateEnd, read⟩ := Option.bind_eq_some_iff.mp read
  obtain ⟨⟨hour, afterHour⟩, hourRead, read⟩ := Option.bind_eq_some_iff.mp read
  obtain ⟨afterColon, colon, -⟩ := Option.bind_eq_some_iff.mp read
  have toMonth := (suffix_of_readDigits? monthRead).trans
    ((suffix_of_readChar? firstDash).trans (suffix_of_readDigits? yearRead))
  have toDay := (suffix_of_readDigits? dayRead).trans ((suffix_of_readChar? secondDash).trans toMonth)
  have toHour := (suffix_of_readDigits? hourRead).trans ((suffix_of_readDateEnd? dateEnd).trans toDay)
  exact toHour.subset (mem_of_readChar? colon)

/-- A text that is read as a date is read neither as an instant nor as a time of day. -/
theorem Date.apart {date : Date} (read : read? text = some date) :
    Instant.read? text = none ∧ TimeOfDay.read? text = none := by
  have noColon := colon_notMem read
  refine ⟨Option.eq_none_iff_forall_ne_some.mpr fun instant other => ?_,
    TimeOfDay.read?_eq_none_of_notMem noColon⟩
  exact noColon (Instant.colon_mem other)

/-- A text that is read as an instant is read neither as a date nor as a time of day. -/
theorem Instant.apart {instant : Instant} (read : read? text = some instant) :
    Date.read? text = none ∧ TimeOfDay.read? text = none := by
  constructor <;> refine Option.eq_none_iff_forall_ne_some.mpr fun value other => ?_
  · exact Date.colon_notMem other (colon_mem read)
  · have noDash : '-' ∉ text.tail := fun member =>
      TimeOfDay.dash_notMem other (List.mem_of_mem_tail member)
    rw [read?_eq_none_of_tail noDash] at read
    cases read

/-- A text that is read as a time of day is read neither as a date nor as an instant. -/
theorem TimeOfDay.apart {time : TimeOfDay} (read : read? text = some time) :
    Date.read? text = none ∧ Instant.read? text = none := by
  constructor <;> refine Option.eq_none_iff_forall_ne_some.mpr fun value other => ?_
  · rw [(Date.apart other).2] at read
    cases read
  · rw [(Instant.apart other).2] at read
    cases read

end RecordQuery
