import RecordQuery.Proofs.Record.Entries

/-!
# Files that no records are loaded from

A file is loaded as a whole or not at all: one item of a sequence that is no mapping, or one entry of
one item that does not convert, and none of the other items is loaded either.
-/

namespace RecordQuery

namespace Schema

/-- An entry of the mapping stands under a declared name and does not convert. -/
def RefusesEntries (schema : Schema) (entries : List (Document × Document)) : Prop :=
  ∃ entry ∈ entries, ∃ name error, schema.Converts entry name (.error error)

/-- Why an item of a sequence is not loaded. -/
inductive RefusesItem (schema : Schema) (item : Document) : Prop where
  /-- The item is no mapping. -/
  | noMapping (other : item.entries? = none)
  /-- An entry of the item does not convert. -/
  | mapping {entries : List (Document × Document)} (mapping : item.entries? = some entries)
      (refused : schema.RefusesEntries entries)

/-- Why no records are loaded from a text, by the document that the text is read as, if it is one. -/
inductive Refuses (schema : Schema) : Option Document → Prop where
  /-- The text is no document. -/
  | malformed : Refuses schema none
  /-- The document is neither a mapping nor a sequence. -/
  | shapeless {document : Document} (noMapping : ∀ entries, document ≠ .mapping entries)
      (noSequence : ∀ items, document ≠ .sequence items) : Refuses schema (some document)
  /-- An entry of the mapping does not convert. -/
  | mapping {entries : List (Document × Document)} (refused : schema.RefusesEntries entries) :
      Refuses schema (some (.mapping entries))
  /-- An item of the sequence is not loaded. -/
  | sequence {items : List Document} {item : Document} (member : item ∈ items)
      (refused : schema.RefusesItem item) : Refuses schema (some (.sequence items))

end Schema

namespace Record

variable {schema : Schema} {path label : String}

/-- The record of an item of a sequence. -/
def ofItem (schema : Schema) (path label : String) (item : Document) : Except SchemaError Record :=
  match item.entries? with
  | some entries => ofEntries schema label entries
  | none => .error (.notAMapping path)

theorem ofItems_cons (number : Nat) (item : Document) (items : List Document) :
    ofItems schema path label number (item :: items) =
      ofItem schema path (label ++ "#" ++ toString number) item >>= fun record =>
        ofItems schema path label (number + 1) items >>= fun records => .ok (record :: records) := by
  rw [ofItems, ofItem]
  cases item.entries? <;> rfl

theorem exists_ofItem_eq_error_iff {item : Document} :
    (∃ error, ofItem schema path label item = .error error) ↔ schema.RefusesItem item := by
  rw [ofItem]
  cases shape : item.entries? with
  | none => exact ⟨fun _ => .noMapping shape, fun _ => ⟨_, rfl⟩⟩
  | some entries =>
      refine exists_ofEntries_eq_error_iff.trans ⟨fun refused => .mapping shape refused, ?_⟩
      intro refused
      cases refused with
      | noMapping other =>
          rw [shape] at other
          cases other
      | mapping same refused =>
          rw [shape] at same
          obtain rfl := Option.some.inj same
          exact refused

end Record
end RecordQuery
