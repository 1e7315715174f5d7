import RecordQuery.Proofs.Calendar.Stored
import RecordQuery.Proofs.Storage.Form
import RecordQuery.Storage.Value

/-!
# Stored values read back

The content of a stored value stands for the value by the kind that is stored with it: kinds with the
same content, like strings and cases, are told apart by their names.
-/

namespace RecordQuery

namespace Kind

@[simp]
theorem ofStoredName?_storedName (kind : Kind) : ofStoredName? kind.storedName = some kind := by
  cases kind <;> rfl

theorem choice?_storedName (kind : Kind) :
    Storage.choice? all storedName (.string kind.storedName) = some kind :=
  kind.ofStoredName?_storedName

end Kind

namespace Value

/-- The content of a value stands for it by its kind. -/
theorem ofContent?_content (value : Value) : ofContent? value.kind value.content = some value := by
  cases value with
  | bool | double | string | enum => rfl
  | int value =>
      simp only [kind, content, ofContent?, Document.int?, Document.untagged, Option.bind_some,
        int64?_toInt, Option.map_some]
  | date value =>
      simp only [kind, content, text, ofContent?, Document.string?, Document.untagged,
        Option.bind_some, String.toList_ofList, Date.readStored?_text, Option.map_some]
  | dateTime value =>
      simp only [kind, content, text, ofContent?, Document.string?, Document.untagged,
        Option.bind_some, String.toList_ofList, Instant.readStored?_text, Option.map_some]
  | time value =>
      simp only [kind, content, text, ofContent?, Document.string?, Document.untagged,
        Option.bind_some, String.toList_ofList, TimeOfDay.readStored?_text, Option.map_some]

theorem isUntagged_content (value : Value) : value.content.isUntagged = true := by
  cases value <;> simp only [content, Document.isUntagged]

theorem isUntagged_toDocument (value : Value) : value.toDocument.isUntagged = true :=
  Storage.isUntagged_form (List.forall_mem_singleton.mpr value.isUntagged_content)

/-- A value is read back from its document where it is part of a stored predicate. -/
theorem ofStored?_toDocument (value : Value) : ofStored? value.toDocument = some value := by
  have pair := Storage.readPair?_form (by decide : "type" ≠ "value") value.kind.choice?_storedName
    value.content
  rw [ofStored?, toDocument, pair]
  exact value.ofContent?_content

end Value
end RecordQuery
