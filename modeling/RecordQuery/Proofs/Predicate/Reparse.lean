import RecordQuery.Proofs.Predicate.Accepted
import RecordQuery.Proofs.Predicate.Refusal

/-!
# What is read can be written and read again

An instant of a query is brought to universal time when it is read, which can take it from a year of
four digits to the year before 0 or after 9999.  Its text then has a signed year, and no reader of
queries takes it.  Every other predicate that is read from a text is read again from its own text.
-/

namespace RecordQuery
namespace Predicate

open Grammar

theorem isPlain_of_hasLiteral {operand : Value} (hasLiteral : operand.HasLiteral)
    (noCase : ∀ case, operand ≠ .enum case)
    (number : ∀ value, operand = .double value → value.isNaN = false) : operand.IsPlain := by
  cases operand with
  | enum case => exact absurd rfl (noCase case)
  | double value => exact number value rfl
  | dateTime instant => exact hasLiteral
  | _ => trivial

/-- A predicate that is read from a text, and that compares with no NaN, is read again from its own
text exactly when every instant it compares with has a year of four digits in universal time. -/
theorem parse_toString_of_parse_iff {text : String} {predicate : Predicate}
    (accepted : parse text = .ok predicate)
    (noNaN : ∀ value, Value.double value ∈ predicate.operands → value.isNaN = false) :
    parse (toString predicate) = .ok predicate ↔
      ∀ instant, Value.dateTime instant ∈ predicate.operands → instant.HasShortYear := by
  have laws := accepted_of_readQuery (parse_eq_ok_iff_readQuery.mp accepted)
  rw [parse_toString_eq_ok_iff]
  constructor
  · intro read instant member
    by_contra long
    exact readQuery_text_ne_ok laws.flat laws.named (fun literals => long (literals _ member))
      predicate read
  · intro short
    refine readQuery_text_of_flat laws.flat laws.named fun operand member => ?_
    have hasLiteral : operand.HasLiteral := by
      by_contra without
      obtain ⟨instant, rfl, long⟩ := Value.exists_of_not_hasLiteral without
      exact long (short instant member)
    exact isPlain_of_hasLiteral hasLiteral (laws.noCase operand member) fun value same =>
      noNaN value (same ▸ member)

/-- A query for an instant that its offset moves to the next day, and for a number. -/
def shiftedQuery : Predicate :=
  .group .or
    [.compare "at" (.relates .ge (.dateTime ⟨.mk 2020 3 1, .mk 1 30 0 0⟩)),
      .negation (.compare "n" (.relates .eq (.int (-7))))]

theorem parse_toString_shiftedQuery :
    parse "at >= 2020-02-29T23:30:00-02:00 or not n = -7" = .ok shiftedQuery ∧
      (parse (toString shiftedQuery) = .ok shiftedQuery ↔
        ∀ instant, Value.dateTime instant ∈ shiftedQuery.operands → instant.HasShortYear) := by
  have read : parse "at >= 2020-02-29T23:30:00-02:00 or not n = -7" = .ok shiftedQuery := by rfl
  have noNaN : ∀ value, Value.double value ∈ shiftedQuery.operands → value.isNaN = false := by
    intro value member
    have operands : shiftedQuery.operands =
        [.dateTime ⟨.mk 2020 3 1, .mk 1 30 0 0⟩, .int (-7)] := by rfl
    simp [operands] at member
  exact ⟨read, parse_toString_of_parse_iff read noNaN⟩

/-- East of Greenwich the year 0 begins in the year before: a query is read whose own text is
not. -/
theorem parse_toString_yearBeforeZero : ∃ predicate,
    parse "f = 0000-01-01T00:00:00+01:00" = .ok predicate ∧
      parse (toString predicate) ≠ .ok predicate := by
  refine ⟨.compare "f" (.relates .eq (.dateTime ⟨.mk (-1) 12 31, .mk 23 0 0 0⟩)), by rfl, ?_⟩
  intro read
  have refused : (parse "f = -0001-12-31T23:00:00Z").toBool = false := by decide
  rw [show parse "f = -0001-12-31T23:00:00Z" = .ok _ from read] at refused
  cases refused

end Predicate
end RecordQuery
