import Mathlib.Data.List.Pairwise
import RecordQuery.Proofs.Record

/-!
# A record holds what its entries convert to

Every key of a mapping stands once, so what a record holds under a name comes from one entry: that
under the name, converted by the first declaration of the name.  Loading fails exactly if an entry
under a declared name does not convert, and with the error of the first such entry.
-/

namespace RecordQuery

/-- The entry stands under a declared name, and the first declaration of the name converts its
content with the given result. -/
structure Schema.Converts (schema : Schema) (entry : Document × Document) (name : String)
    (result : Except SchemaError (Option Value)) : Prop where
  /-- The key is the name. -/
  key : entry.1.string? = some name
  /-- The name is declared, and its declaration decides. -/
  result : ∃ field, schema.field? name = some field ∧ field.convert entry.2 = result

theorem Document.string?_eq_some_iff {key : Document} (untagged : key.untagged = key)
    {text : String} : key.string? = some text ↔ key = .string text := by
  rw [string?, untagged]
  cases key <;> simp

namespace Record

variable {schema : Schema}

/-! ## One entry -/

theorem entryValue_of_undeclared {key content : Document}
    (undeclared : key.string?.bind schema.field? = none) :
    entryValue schema key content = .ok none := by
  rw [entryValue, undeclared]

/-- An entry under a declared name stores what its content converts to under the name. -/
theorem entryValue_of_converts {entry : Document × Document} {name : String}
    {result : Except SchemaError (Option Value)} (converts : schema.Converts entry name result) :
    entryValue schema entry.1 entry.2 =
      result.map fun converted => converted.map fun value => (name, value) := by
  obtain ⟨named, field, declared, rfl⟩ := converts
  have found : entry.1.string?.bind schema.field? = some field := by
    rw [named, Option.bind_some, declared]
  obtain rfl := Schema.name_of_field? declared
  simp only [entryValue, found]
  cases field.convert entry.2 <;> rfl

theorem undeclared_or_converts (schema : Schema) (entry : Document × Document) :
    entry.1.string?.bind schema.field? = none ∨ ∃ name result, schema.Converts entry name result := by
  cases declared : entry.1.string?.bind schema.field? with
  | none => exact .inl rfl
  | some field =>
      obtain ⟨name, named, declared⟩ := Option.bind_eq_some_iff.mp declared
      exact .inr ⟨name, field.convert entry.2, named, field, declared, rfl⟩

theorem entryValue_eq_error_iff {entry : Document × Document} {error : SchemaError} :
    entryValue schema entry.1 entry.2 = .error error ↔
      ∃ name, schema.Converts entry name (.error error) := by
  constructor
  · intro fails
    rcases undeclared_or_converts schema entry with undeclared | ⟨name, result, converts⟩
    · rw [entryValue_of_undeclared undeclared] at fails
      cases fails
    · rw [entryValue_of_converts converts] at fails
      cases result with
      | ok value => cases fails
      | error other =>
          obtain rfl := Except.error.inj fails
          exact ⟨name, converts⟩
  · rintro ⟨name, converts⟩
    rw [entryValue_of_converts converts]
    rfl

theorem entryValue_eq_some_iff {entry : Document × Document} {name : String} {value : Value} :
    entryValue schema entry.1 entry.2 = .ok (some (name, value)) ↔
      schema.Converts entry name (.ok (some value)) := by
  constructor
  · intro stores
    rcases undeclared_or_converts schema entry with undeclared | ⟨name', result, converts⟩
    · rw [entryValue_of_undeclared undeclared] at stores
      cases stores
    · rw [entryValue_of_converts converts] at stores
      obtain ⟨converted, rfl, same⟩ := map_eq_ok_iff.mp stores
      obtain ⟨value', rfl, stored⟩ := Option.map_eq_some_iff.mp same
      obtain ⟨rfl, rfl⟩ := Prod.mk.inj stored
      exact converts
  · intro converts
    rw [entryValue_of_converts converts]
    rfl

/-! ## All entries -/

theorem mem_entryValues_iff {entries : List (Document × Document)} {values : List (String × Value)}
    (hold : entryValues schema entries = .ok values) {name : String} {value : Value} :
    (name, value) ∈ values ↔
      ∃ entry ∈ entries, schema.Converts entry name (.ok (some value)) := by
  induction entries generalizing values with
  | nil =>
      obtain rfl := Except.ok.inj hold
      simp
  | cons entry entries ih =>
      obtain ⟨first, holds, hold⟩ := bind_eq_ok_iff.mp hold
      obtain ⟨later, laterHold, stored⟩ := bind_eq_ok_iff.mp hold
      obtain rfl := Except.ok.inj stored
      have firstStores : (name, value) ∈ first.toList ↔
          schema.Converts entry name (.ok (some value)) := by
        rw [← entryValue_eq_some_iff, holds, Option.mem_toList, Except.ok.injEq]
      rw [List.mem_append, ih laterHold, firstStores, or_comm]
      simp

/-- Loading the values of entries fails with the error of the first entry that does not convert. -/
theorem entryValues_eq_error_iff {entries : List (Document × Document)} {error : SchemaError} :
    entryValues schema entries = .error error ↔
      ∃ before entry after name, entries = before ++ entry :: after ∧
        (∀ earlier ∈ before, ∀ name error, ¬ schema.Converts earlier name (.error error)) ∧
          schema.Converts entry name (.error error) := by
  induction entries with
  | nil => simp [entryValues]
  | cons head entries ih =>
      rw [entryValues, bind_eq_error_iff, entryValue_eq_error_iff]
      constructor
      · rintro (⟨name, converts⟩ | ⟨value, holds, fails⟩)
        · exact ⟨[], head, entries, name, rfl, List.forall_mem_nil _, converts⟩
        · have noError : ∀ name error, ¬ schema.Converts head name (.error error) := by
            intro name error converts
            rw [entryValue_eq_error_iff.mpr ⟨name, converts⟩] at holds
            cases holds
          rcases bind_eq_error_iff.mp fails with fails | ⟨later, -, done⟩
          · obtain ⟨before, entry, after, name, rfl, convert, converts⟩ := ih.mp fails
            exact ⟨head :: before, entry, after, name, rfl,
              List.forall_mem_cons.mpr ⟨noError, convert⟩, converts⟩
          · cases done
      · rintro ⟨before, entry, after, name, split, convert, converts⟩
        cases before with
        | nil =>
            obtain ⟨rfl, rfl⟩ := List.cons.inj split
            exact .inl ⟨name, converts⟩
        | cons first before =>
            obtain ⟨rfl, rfl⟩ := List.cons.inj split
            obtain ⟨noError, convert⟩ := List.forall_mem_cons.mp convert
            have fails := ih.mpr ⟨before, entry, after, name, rfl, convert, converts⟩
            cases holds : entryValue schema head.1 head.2 with
            | error other =>
                obtain ⟨name, converts⟩ := entryValue_eq_error_iff.mp holds
                exact absurd converts (noError name other)
            | ok value => exact .inr ⟨value, rfl, bind_eq_error_iff.mpr (.inl fails)⟩

theorem entryValues_append_eq_ok {first later : List (Document × Document)}
    {values : List (String × Value)} (hold : entryValues schema (first ++ later) = .ok values) :
    ∃ firstValues laterValues, entryValues schema first = .ok firstValues ∧
      entryValues schema later = .ok laterValues ∧ values = laterValues ++ firstValues := by
  induction first generalizing values with
  | nil => exact ⟨[], values, rfl, hold, (List.append_nil values).symm⟩
  | cons entry first ih =>
      obtain ⟨value, holds, hold⟩ := bind_eq_ok_iff.mp hold
      obtain ⟨others, othersHold, stored⟩ := bind_eq_ok_iff.mp hold
      obtain ⟨firstValues, laterValues, firstHold, laterHold, rfl⟩ := ih othersHold
      obtain rfl := Except.ok.inj stored
      refine ⟨firstValues ++ value.toList, laterValues, ?_, laterHold, List.append_assoc _ _ _⟩
      exact bind_eq_ok_iff.mpr ⟨value, holds, bind_eq_ok_iff.mpr ⟨firstValues, firstHold, rfl⟩⟩

/-- The last entry under a declared name decides what is held under the name, unless it is null. -/
theorem lookup_entryValues_of_last {before after : List (Document × Document)}
    {entry : Document × Document} {values : List (String × Value)}
    (hold : entryValues schema (before ++ entry :: after) = .ok values) {name : String} {value : Value}
    (converts : schema.Converts entry name (.ok (some value)))
    (last : ∀ later ∈ after, later.1.string? ≠ some name) : values.lookup name = some value := by
  obtain ⟨beforeValues, others, -, othersHold, rfl⟩ := entryValues_append_eq_ok hold
  obtain ⟨stored, stores, othersHold⟩ := bind_eq_ok_iff.mp othersHold
  obtain ⟨afterValues, afterHold, same⟩ := bind_eq_ok_iff.mp othersHold
  obtain rfl := Except.ok.inj same
  rw [entryValue_eq_some_iff.mpr converts] at stores
  obtain rfl := Except.ok.inj stores
  have noLater : afterValues.lookup name = none := by
    cases found : afterValues.lookup name with
    | none => rfl
    | some other =>
        obtain ⟨later, inside, converted⟩ := (mem_entryValues_iff afterHold).mp (mem_of_lookup found)
        exact absurd converted.key (last later inside)
  rw [List.append_assoc, List.lookup_append, noLater]
  simp

/-! ## Keys that stand once -/

section UniqueKeys

variable {entries : List (Document × Document)}

/-- A name is the key of one entry at most. -/
theorem eq_of_key (unique : entries.Pairwise fun entry later => entry.1.sameKey later.1 = false)
    {name : String} {content content' : Document} (member : (.string name, content) ∈ entries)
    (member' : (.string name, content') ∈ entries) : content = content' := by
  have apart : entries.Pairwise fun entry other =>
      ¬ (entry.1 = .string name ∧ other.1 = .string name) := by
    refine unique.imp fun {entry other} different both => ?_
    rw [both.1, both.2, Document.sameKey, beq_self_eq_true] at different
    cases different
  have symmetric : Std.Symm fun entry other : Document × Document =>
      ¬ (entry.1 = .string name ∧ other.1 = .string name) :=
    ⟨fun entry other different both => different both.symm⟩
  by_contra different
  exact apart.forall member member' (fun same => different (Prod.mk.inj same).2) ⟨rfl, rfl⟩

theorem converts_iff (untagged : ∀ entry ∈ entries, entry.1.untagged = entry.1) {name : String}
    {result : Except SchemaError (Option Value)} :
    (∃ entry ∈ entries, schema.Converts entry name result) ↔
      ∃ field content, schema.field? name = some field ∧ (.string name, content) ∈ entries ∧
        field.convert content = result := by
  constructor
  · rintro ⟨⟨key, content⟩, member, named, field, declared, converts⟩
    obtain rfl := (Document.string?_eq_some_iff (untagged _ member)).mp named
    exact ⟨field, content, declared, member, converts⟩
  · rintro ⟨field, content, declared, member, converts⟩
    exact ⟨_, member, rfl, field, declared, converts⟩

/-- What a loaded record holds under a declared name is what the entry under the name converts to. -/
theorem get?_eq_some_iff (untagged : ∀ entry ∈ entries, entry.1.untagged = entry.1)
    (unique : entries.Pairwise fun entry later => entry.1.sameKey later.1 = false)
    {label : String} {record : Record} (loads : ofEntries schema label entries = .ok record)
    {name : String} {value : Value} :
    record.get? name = some value ↔
      ∃ field content, schema.field? name = some field ∧ (.string name, content) ∈ entries ∧
        field.convert content = .ok (some value) := by
  obtain ⟨values, hold, rfl⟩ := map_eq_ok_iff.mp loads
  have stored {value : Value} : (name, value) ∈ values ↔ _ :=
    (mem_entryValues_iff hold).trans (converts_iff untagged)
  rw [get?, ← stored]
  constructor
  · exact mem_of_lookup
  · intro member
    cases found : values.lookup name with
    | none => simpa using List.lookup_eq_none_iff.mp found _ member
    | some other =>
        obtain ⟨field, content, declared, inside, converts⟩ := stored.mp member
        obtain ⟨field', content', declared', inside', converts'⟩ := stored.mp (mem_of_lookup found)
        obtain rfl := Option.some.inj (declared.symm.trans declared')
        obtain rfl := eq_of_key unique inside inside'
        exact Except.ok.inj (converts'.symm.trans converts)

end UniqueKeys

/-! ## Loaded records -/

theorem ofEntries_eq_error_iff {label : String} {entries : List (Document × Document)}
    {error : SchemaError} :
    ofEntries schema label entries = .error error ↔ entryValues schema entries = .error error := by
  rw [ofEntries]
  cases entryValues schema entries <;> simp [Except.map]

theorem target_eq_ok_iff {record : Record} {name : String} {held : Option Value} :
    record.target name = .ok held ↔
      (∃ field, record.schema.field? name = some field) ∧ record.get? name = held := by
  rw [target]
  cases record.schema.field? name <;> simp

/-- Where an entry does not convert, nothing is loaded. -/
theorem not_converts_of_entryValues {entries : List (Document × Document)}
    {values : List (String × Value)} (hold : entryValues schema entries = .ok values) :
    ∀ entry ∈ entries, ∀ name error, ¬ schema.Converts entry name (.error error) := by
  induction entries generalizing values with
  | nil => exact List.forall_mem_nil _
  | cons entry entries ih =>
      obtain ⟨first, holds, hold⟩ := bind_eq_ok_iff.mp hold
      obtain ⟨later, laterHold, -⟩ := bind_eq_ok_iff.mp hold
      refine List.forall_mem_cons.mpr ⟨fun name error converts => ?_, ih laterHold⟩
      rw [entryValue_eq_error_iff.mpr ⟨name, converts⟩] at holds
      cases holds

theorem exists_ofEntries_eq_error_iff {label : String} {entries : List (Document × Document)} :
    (∃ error, ofEntries schema label entries = .error error) ↔
      ∃ entry ∈ entries, ∃ name error, schema.Converts entry name (.error error) := by
  simp only [ofEntries_eq_error_iff]
  constructor
  · rintro ⟨error, fails⟩
    obtain ⟨before, entry, after, name, rfl, -, converts⟩ := entryValues_eq_error_iff.mp fails
    exact ⟨entry, List.mem_append_right _ List.mem_cons_self, name, error, converts⟩
  · rintro ⟨entry, member, name, error, converts⟩
    cases result : entryValues schema entries with
    | error first => exact ⟨first, rfl⟩
    | ok values => exact absurd converts (not_converts_of_entryValues result entry member name error)

/-- In a mapping that is loaded, the content under a declared name converts. -/
theorem exists_convert_eq_ok {label : String} {entries : List (Document × Document)}
    {record : Record} (loads : ofEntries schema label entries = .ok record) {name : String}
    {content : Document} (member : (.string name, content) ∈ entries) {field : Field}
    (declared : schema.field? name = some field) : ∃ held, field.convert content = .ok held := by
  obtain ⟨values, hold, -⟩ := map_eq_ok_iff.mp loads
  cases result : field.convert content with
  | ok held => exact ⟨held, rfl⟩
  | error error =>
      exact absurd ⟨rfl, field, declared, result⟩
        (not_converts_of_entryValues hold _ member name error)

/-- A loaded record is complete and well typed.  It knows the declared names and no others.  Under a
declared name it holds what the entry under the name is converted to, which is of the kind of the
first declaration and for an enumeration one of its cases; it holds nothing if there is no such entry
or if the entry is null.  Loading fails exactly if an entry under a declared name does not convert,
with the error of the first one. -/
theorem contents_of_ofEntries (schema : Schema) (label : String)
    {entries : List (Document × Document)}
    (untagged : ∀ entry ∈ entries, entry.1.untagged = entry.1)
    (unique : entries.Pairwise fun entry later => entry.1.sameKey later.1 = false) :
    (∀ record, ofEntries schema label entries = .ok record → ∀ name,
      (record.target name = .error (.fieldNotFound name) ↔ schema.field? name = none) ∧
      (record.target name = .ok none ↔ ∃ field, schema.field? name = some field ∧
        ∀ content, (.string name, content) ∈ entries → field.convert content = .ok none) ∧
      (∀ value, record.target name = .ok (some value) ↔
        ∃ field content, schema.field? name = some field ∧ (.string name, content) ∈ entries ∧
          field.convert content = .ok (some value) ∧ value.kind = field.kind ∧
            (field.kind = .enum → ∃ case ∈ field.cases, value = .enum case))) ∧
    ((∃ error, ofEntries schema label entries = .error error) ↔
      ∃ entry ∈ entries, ∃ name error, schema.Converts entry name (.error error)) ∧
    (∀ error, ofEntries schema label entries = .error error ↔
      ∃ before entry after name, entries = before ++ entry :: after ∧
        (∀ earlier ∈ before, ∀ name error, ¬ schema.Converts earlier name (.error error)) ∧
          schema.Converts entry name (.error error)) := by
  refine ⟨fun record loads name => ?loaded, exists_ofEntries_eq_error_iff, fun error =>
    ofEntries_eq_error_iff.trans entryValues_eq_error_iff⟩
  have same : record.schema = schema := IsLoaded.schema_eq ⟨label, entries, loads⟩
  have held {value : Value} : record.get? name = some value ↔ _ :=
    get?_eq_some_iff untagged unique loads
  simp only [target_eq_ok_iff, same]
  refine ⟨?unknown, ?unset, fun value => ?value⟩
  case unknown =>
    rw [target, same]
    cases schema.field? name <;> simp
  case unset =>
    constructor
    · rintro ⟨⟨field, declared⟩, empty⟩
      refine ⟨field, declared, fun content member => ?_⟩
      obtain ⟨result, converts⟩ := exists_convert_eq_ok loads member declared
      cases result with
      | none => exact converts
      | some value =>
          rw [held.mpr ⟨field, content, declared, member, converts⟩] at empty
          cases empty
    · rintro ⟨field, declared, null⟩
      refine ⟨⟨field, declared⟩, Option.eq_none_iff_forall_ne_some.mpr fun value holds => ?_⟩
      obtain ⟨field', content, declared', member, converts⟩ := held.mp holds
      obtain rfl := Option.some.inj (declared.symm.trans declared')
      rw [null content member] at converts
      cases converts
  case value =>
    constructor
    · rintro ⟨-, holds⟩
      obtain ⟨field, content, declared, member, converts⟩ := held.mp holds
      have admits := Field.admits_of_convert converts
      exact ⟨field, content, declared, member, converts, admits.kind, admits.exists_case⟩
    · rintro ⟨field, content, declared, member, converts, -⟩
      exact ⟨⟨field, declared⟩, held.mpr ⟨field, content, declared, member, converts⟩⟩

/-- The size is declared twice, first as a number. -/
def noteSchema : Schema :=
  ⟨"Note", [⟨"size", .int, []⟩, ⟨"state", .enum, ["open"]⟩, ⟨"text", .string, []⟩,
    ⟨"size", .string, []⟩]⟩

/-- A mapping with a key that is no name, an undeclared name, a null and a size. -/
def noteEntries (size : Document) : List (Document × Document) :=
  [(.int 1, .string "first"), (.string "state", .string "open"), (.string "colour", .bool true),
    (.string "text", .null), (.string "size", size)]

theorem contents_of_ofEntries_noteEntries :
    (∃ record, ofEntries noteSchema "note" (noteEntries (.int 3)) = .ok record ∧
      record.target "size" = .ok (some (.int 3)) ∧ record.target "text" = .ok none ∧
        record.target "colour" = .error (.fieldNotFound "colour")) ∧
    ∃ error, ofEntries noteSchema "note" (noteEntries (.string "large")) = .error error := by
  have untagged (size : Document) :
      ∀ entry ∈ noteEntries size, entry.1.untagged = entry.1 := by
    simp [noteEntries, Document.untagged]
  have unique (size : Document) :
      (noteEntries size).Pairwise fun entry later => entry.1.sameKey later.1 = false := by
    simp [noteEntries, Document.sameKey]
  have small := contents_of_ofEntries noteSchema "note" (untagged (.int 3)) (unique (.int 3))
  have large := contents_of_ofEntries noteSchema "note" (untagged (.string "large"))
    (unique (.string "large"))
  have loads : ofEntries noteSchema "note" (noteEntries (.int 3)) =
      .ok ⟨noteSchema, "note", [("size", .int 3), ("state", .enum "open")]⟩ := by rfl
  refine ⟨⟨_, loads, ?size, ?text, ?colour⟩, ?fails⟩
  case size =>
    exact ((small.1 _ loads "size").2.2 _).mpr
      ⟨⟨"size", .int, []⟩, .int 3, rfl, by simp [noteEntries], rfl, rfl, nofun⟩
  case text =>
    refine (small.1 _ loads "text").2.1.mpr ⟨⟨"text", .string, []⟩, rfl, fun content member => ?_⟩
    obtain rfl : content = .null := by simpa [noteEntries] using member
    rfl
  case colour => exact (small.1 _ loads "colour").1.mpr rfl
  case fails =>
    exact large.2.1.mpr ⟨(.string "size", .string "large"), by simp [noteEntries], "size",
      .invalidValue "size" .int "string \"large\"", rfl, ⟨"size", .int, []⟩, rfl, rfl⟩

end Record
end RecordQuery
