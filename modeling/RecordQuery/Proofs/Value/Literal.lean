import RecordQuery.Proofs.Calendar.Written
import RecordQuery.Proofs.Double.Written
import RecordQuery.Proofs.Value.Integer

/-!
# Unquoted literals read back

Every value that is written without quotes is read back from its literal, except for an instant
whose year does not have four digits.  The readers are tried in order, so what has to be shown is
also that none of the earlier ones takes the literal of another kind.
-/

namespace RecordQuery

open Text

/-! ## Doubles -/

namespace Double

/-- Digits after an optional sign are read as a number and not as a word. -/
theorem read?_eq_of_isDigit {negative : Bool} {body : List Char}
    (digit : ∃ c tail, body = c :: tail ∧ c.isDigit = true) :
    read? (if negative then '-' :: body else body) = readUnsigned? negative body := by
  have sign : readSign (if negative then '-' :: body else body) = (negative, body) := by
    cases negative with
    | true => rfl
    | false => exact readSign_of_isDigit digit
  apply read?_eq_readUnsigned? sign
  obtain ⟨c, tail, rfl, digit⟩ := digit
  intro first head
  obtain rfl := Option.some.inj head
  exact ⟨toLower_ne_of_isDigit digit (by decide), toLower_ne_of_isDigit digit (by decide)⟩

theorem IsSpelling.exists_isDigit {d : Double} {body whole fraction : List Char}
    (spelling : IsSpelling d body whole fraction) :
    ∃ c tail, body = c :: tail ∧ c.isDigit = true := by
  have digits := spelling.isDigit_whole
  rw [spelling.body_eq]
  cases whole with
  | nil => exact absurd rfl spelling.whole_ne
  | cons c whole => exact ⟨c, _, rfl, digits c List.mem_cons_self⟩

/-- The text of a finite double, sign included, is read as the double. -/
theorem IsSpelling.read? {d : Double} {body whole fraction : List Char}
    (spelling : IsSpelling d body whole fraction) :
    read? (if d.isNegative then '-' :: body else body) = some d := by
  rw [read?_eq_of_isDigit spelling.exists_isDigit, spelling.readUnsigned?]

/-- The text of an infinity, sign included, is read as that infinity. -/
theorem read?_infinite {d : Double} (infinite : d.isInfinite = true) :
    read? (if d.isNegative then '-' :: "inf".toList else "inf".toList) = some d := by
  have same := infinity_isNegative infinite
  cases sign : d.isNegative with
  | true =>
      rw [sign] at same
      simp [Double.read?, readSign, same]
  | false =>
      rw [sign] at same
      simp [Double.read?, readSign, same]

end Double

namespace Value

/-! ## Numbers -/

theorem ofNumber?_of_point {text : List Char} {d : Double} (point : '.' ∈ text)
    (read : Double.read? text = some d) : ofNumber? text = some (.double d) := by
  have any : (text.any fun c => c == '.' || c == 'e' || c == 'E') = true :=
    List.any_eq_true.mpr ⟨'.', point, rfl⟩
  rw [ofNumber?, if_pos any, read]
  rfl

theorem literal_double (d : Double) : (Value.double d).literal =
    if d.isWhole then Double.wholeText d else Double.positional.text d :=
  rfl

/-- A double other than NaN is written as its spelling or as the word for an infinity, after a minus
sign or none. -/
theorem exists_literal_double_eq {d : Double} (number : d.isNaN = false) : ∃ body,
    (Value.double d).literal = (if d.isNegative then '-' :: body else body) ∧
      ((∃ whole fraction, Double.IsSpelling d body whole fraction) ∨
        d.isInfinite = true ∧ body = "inf".toList) := by
  by_cases finite : d.isFinite = true
  · cases whole : d.isWhole with
    | true =>
        obtain ⟨body, digits, text_eq, spelling⟩ := Double.exists_wholeText_eq whole
        exact ⟨body, by rw [literal_double, if_pos whole, text_eq], .inl ⟨digits, _, spelling⟩⟩
    | false =>
        obtain ⟨body, digits, fraction, text_eq, spelling⟩ :=
          Double.exists_positional_eq finite whole
        exact ⟨body, by rw [literal_double, whole, if_neg Bool.false_ne_true, text_eq],
          .inl ⟨digits, fraction, spelling⟩⟩
  · have infinite : d.isInfinite = true := by
      simp only [Double.isNaN, Double.isFinite, Double.isInfinite, decide_eq_false_iff_not,
        decide_eq_true_eq, beq_iff_eq] at *
      omega
    have fractional : d.isWhole = false := by simp [Double.isWhole, finite]
    refine ⟨"inf".toList, ?_, .inr ⟨infinite, rfl⟩⟩
    rw [literal_double, fractional, if_neg Bool.false_ne_true,
      Double.positional_text_infinite infinite]

/-- An unsigned number after a minus sign or none is no date, no instant and no time. -/
theorem ofScalar?_signed {negative : Bool} {body : List Char}
    (noDash : '-' ∉ body) (noColon : ':' ∉ body) :
    ofScalar? (if negative then '-' :: body else body) =
      ofNumber? (if negative then '-' :: body else body) := by
  cases negative with
  | true => exact ofScalar?_eq_ofNumber? noDash (by simpa using noColon)
  | false => exact ofScalar?_eq_ofNumber? (fun member => noDash (List.mem_of_mem_tail member)) noColon

theorem ofScalar?_double {d : Double} (number : d.isNaN = false) :
    ofScalar? (Value.double d).literal = some (.double d) := by
  obtain ⟨body, text_eq, written⟩ := exists_literal_double_eq number
  rw [text_eq]
  rcases written with ⟨whole, fraction, spelling⟩ | ⟨infinite, rfl⟩
  · have noDash : '-' ∉ body := spelling.notMem_body rfl (by decide)
    have noColon : ':' ∉ body := spelling.notMem_body rfl (by decide)
    have point : '.' ∈ (if d.isNegative then '-' :: body else body) := by
      rw [spelling.body_eq]
      split <;> simp
    rw [ofScalar?_signed noDash noColon]
    exact ofNumber?_of_point point spelling.read?
  · have noDash : '-' ∉ "inf".toList := by decide
    have noColon : ':' ∉ "inf".toList := by decide
    have read := Double.read?_infinite infinite
    have notFinite : (!d.isFinite) = true := by
      simp only [Double.isInfinite, beq_iff_eq] at infinite
      simp [Double.isFinite, infinite]
    have plain : ((if d.isNegative then '-' :: "inf".toList else "inf".toList).any
        fun c => c == '.' || c == 'e' || c == 'E') = false := by
      split <;> decide
    rw [ofScalar?_signed noDash noColon, ofNumber?, plain, read, Option.filter_some,
      if_pos notFinite]
    rfl

theorem ofScalar?_int (n : Int64) : ofScalar? (ofInt n.toInt) = some (.int n) := by
  rw [ofScalar?_of_spellsInteger (spellsInteger_ofInt n.toInt), if_pos ⟨n.le_toInt, n.toInt_lt⟩,
    Int64.ofInt_toInt]

/-! ## Dates, instants and times -/

theorem ofScalar?_date (date : Date) : ofScalar? date.text = some (.date date) := by
  rw [ofScalar?, Date.read?_text]
  rfl

theorem ofScalar?_dateTime {instant : Instant} (short : instant.HasShortYear) :
    ofScalar? instant.text = some (.dateTime instant) := by
  rw [ofScalar?, Instant.dateRead?_text, Instant.read?_text short]
  rfl

theorem ofScalar?_time (time : TimeOfDay) : ofScalar? time.text = some (.time time) := by
  have noDash : '-' ∉ time.text.tail := by
    intro member
    rcases TimeOfDay.mem_text (List.mem_of_mem_tail member) with digit | same | same
    · exact absurd digit (by decide)
    · exact absurd same (by decide)
    · exact absurd same (by decide)
  rw [ofScalar?, Date.read?_eq_none_of_tail noDash, Instant.read?_eq_none_of_tail noDash,
    TimeOfDay.read?_text]
  rfl

/-- A signed number with a dash after its digits is no number. -/
theorem ofNumber?_eq_none_of_dash {sign : Char} (signed : sign = '-' ∨ sign = '+')
    (width n : Nat) (tail : List Char) :
    ofNumber? (sign :: (padded width n ++ '-' :: tail)) = none := by
  obtain ⟨negative, split⟩ : ∃ negative, Double.readSign
      (sign :: (padded width n ++ '-' :: tail)) = (negative, padded width n ++ '-' :: tail) := by
    rcases signed with rfl | rfl
    · exact ⟨true, rfl⟩
    · exact ⟨false, rfl⟩
  have isDigit : ∀ c ∈ padded width n, c.isDigit = true := fun c => isDigit_of_mem_padded
  have noDouble : Double.read? (sign :: (padded width n ++ '-' :: tail)) = none := by
    have ends : Ends Char.isDigit ('-' :: tail) := ends_cons.mpr rfl
    have unread := Double.readUnsigned?_whole negative isDigit ends (by simp)
    rw [Double.read?_eq_readUnsigned? split, unread]
    · simp [Double.readExponent?]
    · obtain ⟨c, more, digits, digit⟩ := exists_padded_eq width n
      intro first head
      rw [digits] at head
      obtain rfl := Option.some.inj head
      exact ⟨toLower_ne_of_isDigit digit (by decide), toLower_ne_of_isDigit digit (by decide)⟩
  have noInt : readInt? (sign :: (padded width n ++ '-' :: tail)) = none := by
    simp [readInt?, split]
  simp [ofNumber?, noDouble, noInt]

/-- The text of an instant whose year is written with a sign is no unquoted operand. -/
theorem ofScalar?_eq_none_of_long {instant : Instant} (long : ¬ instant.HasShortYear) :
    ofScalar? instant.text = none := by
  have noDate := instant.dateRead?_text
  obtain ⟨sign, tail, signed, text_eq⟩ := Instant.exists_text_eq long
  have solid : isBlank sign = false ∧ sign.isDigit = false := by
    rcases signed with rfl | rfl <;> decide
  rw [text_eq] at noDate ⊢
  rw [ofScalar?, noDate, Instant.read?_eq_none_of_head solid.2,
    TimeOfDay.read?_eq_none_of_head solid.1 solid.2, ofNumber?_eq_none_of_dash signed]
  rfl

end Value
end RecordQuery
