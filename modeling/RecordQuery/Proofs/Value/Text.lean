import RecordQuery.Proofs.Calendar.Stored
import RecordQuery.Proofs.Value.Integer
import RecordQuery.Value.Order

/-!
# Telling values apart by their texts

A value is listed by its text alone.  Integers, dates, instants and times have texts that read back,
so among the values of one kind equality is that of their texts.  It is not among the doubles: zero
and negative zero are equal but have two texts, and NaN is not equal to itself.
-/

namespace RecordQuery

open Text

/-- What reads back is told apart by its text. -/
theorem Text.eq_of_text_eq {α : Type} {read : List Char → Option α} {text : α → List Char}
    (reads : ∀ item, read (text item) = some item) {a b : α} (same : text a = text b) : a = b := by
  have back := reads a
  rw [same, reads b] at back
  exact (Option.some.inj back).symm

namespace Value

variable {a b : Value}

/-- Two values of one kind other than double are the same if their texts are. -/
theorem eq_of_text_eq (kind : a.kind = b.kind) (noDouble : a.kind ≠ .double)
    (same : a.text = b.text) : a = b := by
  cases a <;> cases b <;> simp only [Value.kind, reduceCtorEq] at kind
  case bool.bool a b => cases a <;> cases b <;> first | rfl | cases same
  case int.int a b =>
    have reads (n : Int) : readInt? (ofInt n) = some n :=
      readInt?_of_spellsInteger (spellsInteger_ofInt n)
    rw [Int64.toInt_inj.mp (Text.eq_of_text_eq reads same)]
  case double.double => exact absurd rfl noDouble
  case string.string a b => rw [String.toList_inj.mp same]
  case date.date a b => rw [Text.eq_of_text_eq Date.readStored?_text same]
  case dateTime.dateTime a b => rw [Text.eq_of_text_eq Instant.readStored?_text same]
  case time.time a b => rw [Text.eq_of_text_eq TimeOfDay.readStored?_text same]
  case enum.enum a b => rw [String.toList_inj.mp same]

theorem toString_inj (kind : a.kind = b.kind) (noDouble : a.kind ≠ .double) :
    toString a = toString b ↔ a = b :=
  ⟨fun same => eq_of_text_eq kind noDouble (String.ofList_injective same), congrArg toString⟩

/-- Equality of two values of one kind other than double is equality of their texts. -/
theorem equal?_eq_toString (kind : a.kind = b.kind) (noDouble : a.kind ≠ .double) :
    a.equal? b = some (toString a == toString b) := by
  have texts : (toString a == toString b) = (a == b) := by
    rw [Bool.eq_iff_iff, beq_iff_eq, beq_iff_eq, toString_inj kind noDouble]
  rw [texts]
  cases a <;> cases b <;> simp only [Value.kind, reduceCtorEq] at kind
  case double.double => exact absurd rfl noDouble
  all_goals simp [equal?, compareAs, caseText?, number?]

end Value
end RecordQuery
