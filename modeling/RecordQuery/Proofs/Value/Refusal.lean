import RecordQuery.Proofs.Calendar.Refusal
import RecordQuery.Value.Literal

/-!
# Texts that are no unquoted operands

Outside its few words an unquoted operand begins with a digit, a sign or a point.
-/

namespace RecordQuery

open Text

namespace Double

theorem readSign_cons {c : Char} {text : List Char} (noSign : c ≠ '-' ∧ c ≠ '+') :
    readSign (c :: text) = (false, c :: text) := by
  unfold readSign
  split
  · rename_i signed
    exact absurd (List.cons.inj signed).1 noSign.1
  · rename_i signed
    exact absurd (List.cons.inj signed).1 noSign.2
  · rfl

theorem readSign_of_isDigit {text : List Char}
    (digit : ∃ c tail, text = c :: tail ∧ c.isDigit = true) : readSign text = (false, text) := by
  obtain ⟨c, tail, rfl, digit⟩ := digit
  apply readSign_cons
  constructor
  · rintro rfl
    exact absurd digit (by decide)
  · rintro rfl
    exact absurd digit (by decide)

/-- A text whose first letter is not that of a word for an infinity or a NaN is read by its
digits. -/
theorem read?_eq_readUnsigned? {text body : List Char} {negative : Bool}
    (sign : readSign text = (negative, body))
    (noWord : ∀ c, body.head? = some c → c.toLower ≠ 'i' ∧ c.toLower ≠ 'n') :
    read? text = readUnsigned? negative body := by
  have other : ∀ word : String, word.toList.head? = some 'i' ∨ word.toList.head? = some 'n' →
      String.ofList (body.map Char.toLower) ≠ word := by
    rintro word first rfl
    rw [String.toList_ofList, List.head?_map] at first
    cases head : body.head? with
    | none => simp [head] at first
    | some c =>
        rw [head] at first
        simp only [Option.map_some, Option.some.injEq] at first
        exact first.elim (noWord c head).1 (noWord c head).2
  simp [read?, sign, other "inf" (by simp), other "infinity" (by simp), other "nan" (by simp)]

/-- The digits before anything but a point are the digits of a decimal without a fraction. -/
theorem readUnsigned?_whole (negative : Bool) {whole tail : List Char}
    (digits : ∀ c ∈ whole, c.isDigit = true)
    (ends : Ends Char.isDigit tail) (noPoint : tail.head? ≠ some '.') :
    readUnsigned? negative (whole ++ tail) =
      if whole = [] then none
      else (readExponent? tail).map fun exponent =>
        ofDecimal negative (Nat.ofDigitChars 10 whole 0) exponent := by
  rw [readUnsigned?]
  simp only [takeWhile_append_of_ends digits ends, dropWhile_append_of_ends digits ends]
  split
  · simp at noPoint
  · cases whole with
    | nil => simp
    | cons c whole => cases readExponent? tail <;> simp

end Double

namespace Value

theorem ofNumber?_eq_none_of_head {c : Char} {text : List Char} (noDigit : c.isDigit = false)
    (noSign : c ≠ '-' ∧ c ≠ '+') (noPoint : c ≠ '.')
    (noWord : c.toLower ≠ 'i' ∧ c.toLower ≠ 'n') : ofNumber? (c :: text) = none := by
  have noDouble : Double.read? (c :: text) = none := by
    rw [Double.read?_eq_readUnsigned? (Double.readSign_cons noSign) (by simpa using noWord)]
    have ends : Ends Char.isDigit (c :: text) := ends_cons.mpr noDigit
    have unread := Double.readUnsigned?_whole false (List.forall_mem_nil _) ends
      (by simpa using noPoint)
    simpa using unread
  have noInt : readInt? (c :: text) = none := by
    simp [readInt?, Double.readSign_cons noSign, noDigit]
  simp [ofNumber?, noDouble, noInt]

/-- Nothing that begins with another character than a digit, a sign, a point or the first letter
of a word is an unquoted operand. -/
theorem ofScalar?_eq_none_of_head {c : Char} {text : List Char} (solid : isBlank c = false)
    (noDigit : c.isDigit = false) (noSign : c ≠ '-' ∧ c ≠ '+') (noPoint : c ≠ '.')
    (noWord : c.toLower ≠ 'i' ∧ c.toLower ≠ 'n') : ofScalar? (c :: text) = none := by
  simp [ofScalar?, Date.read?_eq_none_of_head solid noDigit noSign,
    Instant.read?_eq_none_of_head noDigit, TimeOfDay.read?_eq_none_of_head solid noDigit,
    ofNumber?_eq_none_of_head noDigit noSign noPoint noWord]

/-- Digits after an optional sign, with points among them, are no date, no instant and no time. -/
theorem ofScalar?_eq_ofNumber? {text : List Char} (noDash : '-' ∉ text.tail)
    (noColon : ':' ∉ text) : ofScalar? text = ofNumber? text := by
  simp [ofScalar?, Date.read?_eq_none_of_tail noDash, Instant.read?_eq_none_of_tail noDash,
    TimeOfDay.read?_eq_none_of_notMem noColon]

/-- The words `true` and `false` are no beginnings of unquoted operands. -/
theorem ofScalar?_eq_none_of_letter {c : Char} {text : List Char}
    (letter : c = 't' ∨ c = 'T' ∨ c = 'f' ∨ c = 'F') : ofScalar? (c :: text) = none := by
  apply ofScalar?_eq_none_of_head <;> rcases letter with rfl | rfl | rfl | rfl <;> decide

end Value
end RecordQuery
