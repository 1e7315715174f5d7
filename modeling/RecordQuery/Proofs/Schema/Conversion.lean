import RecordQuery.Proofs.Result
import RecordQuery.Schema.Conversion

/-!
# What conversion yields

A field holds values of its declared kind only, and an enumeration field only cases that it
declares.  Conversion yields no other value, whatever the document.
-/

namespace RecordQuery

/-- A value that a document stands for is of the kind it was read by. -/
theorem Value.kind_of_ofDocument? {kind : Kind} {document : Document} {value : Value}
    (reads : ofDocument? kind document = some value) : value.kind = kind := by
  cases kind <;> obtain ⟨content, -, rfl⟩ := Option.map_eq_some_iff.mp reads <;> rfl

namespace Field

/-- The field may hold the value. -/
structure Admits (field : Field) (value : Value) : Prop where
  /-- The value is of the declared kind. -/
  kind : value.kind = field.kind
  /-- A case is one of those declared. -/
  declared : ∀ case, value = .enum case → case ∈ field.cases

theorem caseOf_eq_ok_iff {field : Field} {text : String} {value : Value} :
    field.caseOf text = .ok value ↔ text ∈ field.cases ∧ value = .enum text := by
  by_cases listed : text ∈ field.cases
  · rw [caseOf, if_pos listed, Except.ok.injEq]
    exact ⟨fun same => ⟨listed, same.symm⟩, fun found => found.2.symm⟩
  · rw [caseOf, if_neg listed]
    constructor
    · intro refused
      cases refused
    · intro found
      exact absurd found.1 listed

/-- Conversion yields only values that the field may hold. -/
theorem admits_of_convert {field : Field} {document : Document} {value : Value}
    (converts : field.convert document = .ok (some value)) : field.Admits value := by
  by_cases null : document.isNull
  · rw [convert, if_pos null] at converts
    cases converts
  · rw [convert, if_neg null] at converts
    cases reads : Value.ofDocument? field.kind document with
    | none =>
        rw [reads] at converts
        cases converts
    | some content =>
        have kind : content.kind = field.kind := Value.kind_of_ofDocument? reads
        rw [reads] at converts
        cases content with
        | enum text =>
            obtain ⟨case, cased, same⟩ := map_eq_ok_iff.mp converts
            obtain ⟨listed, rfl⟩ := caseOf_eq_ok_iff.mp cased
            obtain rfl := Option.some.inj same
            exact ⟨kind, fun case same => Value.enum.inj same ▸ listed⟩
        | _ =>
            obtain rfl := Option.some.inj (Except.ok.inj converts)
            exact ⟨kind, fun case same => nomatch same⟩

/-- An enumeration field holds declared cases. -/
theorem Admits.exists_case {field : Field} {value : Value} (admits : field.Admits value)
    (enumeration : field.kind = .enum) : ∃ case ∈ field.cases, value = .enum case := by
  have kind := admits.kind
  rw [enumeration] at kind
  cases value with
  | enum case => exact ⟨case, admits.declared case rfl, rfl⟩
  | _ => cases kind

end Field
end RecordQuery
