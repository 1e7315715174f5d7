import RecordQuery.Proofs.Schema.Conversion
import RecordQuery.Record

/-!
# What a loaded record holds

Loading stores nothing but what conversion yields, under the name that the field was found by.  So
whatever a record holds under a name, the first declaration of that name admits, whether or not the
schema declares the name again.  This goes for all records of a file, be they one or several.
-/

namespace RecordQuery

/-- Every value of the list is one that the declaration of its name admits. -/
def Schema.AdmitsAll (schema : Schema) (values : List (String × Value)) : Prop :=
  ∀ entry ∈ values, ∃ field, schema.field? entry.1 = some field ∧ field.Admits entry.2

/-- What the target holds under a name is a value that the declaration of the name admits. -/
def Target.Conforms (target : Target) (schema : Schema) : Prop :=
  ∀ name value, target name = .ok (some value) →
    ∃ field, schema.field? name = some field ∧ field.Admits value

theorem Schema.name_of_field? {schema : Schema} {name : String} {field : Field}
    (declared : schema.field? name = some field) : field.name = name :=
  eq_of_beq (List.find?_some (p := fun field : Field => field.name == name) declared)

theorem Schema.field?_name {schema : Schema} {name : String} {field : Field}
    (declared : schema.field? name = some field) : schema.field? field.name = some field := by
  rw [Schema.name_of_field? declared]
  exact declared

/-- A schema is loaded exactly if the text of its file holds it. -/
theorem Schema.load_eq_ok_iff {tree : Files.Tree} {path text : String} {schema : Schema}
    (read : tree.read path = .ok text) :
    Schema.load tree path = .ok schema ↔ Schema.read? text = some schema := by
  rw [Schema.load, read]
  dsimp only
  cases Schema.read? text with
  | none =>
      constructor
      · intro loaded
        cases loaded
      · intro holds
        cases holds
  | some found => rw [Except.ok.injEq, Option.some.injEq]

namespace Record

variable {schema : Schema}

theorem admitsAll_of_entryValue {key content : Document} {value : Option (String × Value)}
    (holds : entryValue schema key content = .ok value) : schema.AdmitsAll value.toList := by
  intro entry member
  obtain rfl := Option.mem_toList.mp member
  rw [entryValue] at holds
  cases declared : key.string?.bind schema.field? with
  | none =>
      rw [declared] at holds
      cases holds
  | some field =>
      rw [declared] at holds
      obtain ⟨converted, converts, stored⟩ := bind_eq_ok_iff.mp holds
      obtain ⟨value, rfl, rfl⟩ := Option.map_eq_some_iff.mp (Except.ok.inj stored)
      obtain ⟨name, -, declared⟩ := Option.bind_eq_some_iff.mp declared
      exact ⟨field, Schema.field?_name declared, Field.admits_of_convert converts⟩

theorem admitsAll_of_entryValues {entries : List (Document × Document)}
    {values : List (String × Value)} (hold : entryValues schema entries = .ok values) :
    schema.AdmitsAll values := by
  induction entries generalizing values with
  | nil =>
      obtain rfl := Except.ok.inj hold
      exact List.forall_mem_nil _
  | cons entry entries ih =>
      obtain ⟨value, holds, hold⟩ := bind_eq_ok_iff.mp hold
      obtain ⟨later, laterHold, stored⟩ := bind_eq_ok_iff.mp hold
      obtain rfl := Except.ok.inj stored
      exact List.forall_mem_append.mpr ⟨ih laterHold, admitsAll_of_entryValue holds⟩

theorem mem_of_lookup {values : List (String × Value)} {name : String} {value : Value}
    (found : values.lookup name = some value) : (name, value) ∈ values := by
  obtain ⟨before, after, split, -⟩ := List.lookup_eq_some_iff.mp found
  rw [split]
  exact List.mem_append_right _ List.mem_cons_self

/-- Whatever a loaded record holds, its schema admits. -/
theorem conforms_of_ofEntries {label : String} {entries : List (Document × Document)}
    {record : Record} (loads : ofEntries schema label entries = .ok record) :
    record.target.Conforms schema := by
  obtain ⟨values, hold, rfl⟩ := map_eq_ok_iff.mp loads
  intro name value found
  rw [target] at found
  cases declared : schema.field? name with
  | none => simp [declared] at found
  | some field =>
      have stored : values.lookup name = some value := by
        simpa [declared, get?] using found
      rw [← declared]
      exact admitsAll_of_entryValues hold _ (mem_of_lookup stored)

/-- The record is what some mapping is loaded as under the schema. -/
def IsLoaded (record : Record) (schema : Schema) : Prop :=
  ∃ label entries, ofEntries schema label entries = .ok record

variable {record : Record}

theorem IsLoaded.conforms (loaded : record.IsLoaded schema) : record.target.Conforms schema := by
  obtain ⟨label, entries, loads⟩ := loaded
  exact conforms_of_ofEntries loads

theorem IsLoaded.schema_eq (loaded : record.IsLoaded schema) : record.schema = schema := by
  obtain ⟨label, entries, loads⟩ := loaded
  obtain ⟨values, -, rfl⟩ := map_eq_ok_iff.mp loads
  rfl

/-! ## Files -/

theorem isLoaded_of_ofItems {path label : String} {number : Nat} {items : List Document}
    {records : List Record} (loads : ofItems schema path label number items = .ok records) :
    ∀ record ∈ records, record.IsLoaded schema := by
  induction items generalizing number records with
  | nil =>
      obtain rfl := Except.ok.inj loads
      exact List.forall_mem_nil _
  | cons item items ih =>
      rw [ofItems] at loads
      split at loads
      · obtain ⟨record, loadsItem, loads⟩ := bind_eq_ok_iff.mp loads
        obtain ⟨others, loadsOthers, same⟩ := bind_eq_ok_iff.mp loads
        obtain rfl := Except.ok.inj same
        exact List.forall_mem_cons.mpr ⟨⟨_, _, loadsItem⟩, ih loadsOthers⟩
      · cases loads

theorem isLoaded_of_ofDocument {path label : String} {document : Document} {records : List Record}
    (loads : ofDocument schema path label document = .ok records) :
    ∀ record ∈ records, record.IsLoaded schema := by
  unfold ofDocument at loads
  split at loads
  · obtain ⟨record, loadsOne, rfl⟩ := map_eq_ok_iff.mp loads
    exact List.forall_mem_singleton.mpr ⟨_, _, loadsOne⟩
  · exact isLoaded_of_ofItems loads
  · cases loads

/-- Every record of a file is what some mapping is loaded as. -/
theorem isLoaded_of_load {tree : Files.Tree} {path label : String} {records : List Record}
    (loads : load tree schema path label = .ok records) :
    ∀ record ∈ records, record.IsLoaded schema := by
  unfold load at loads
  split at loads
  · cases loads
  · split at loads
    · exact isLoaded_of_ofDocument loads
    · cases loads

/-! ## Declared fields -/

/-- A record can be asked for every declared field. -/
theorem target_of_declared {name : String} {field : Field}
    (declared : record.schema.field? name = some field) :
    record.target name = .ok (record.get? name) := by
  rw [target, declared]

/-- A record knows no field that its schema does not declare. -/
theorem target_of_undeclared {name : String} (undeclared : record.schema.field? name = none) :
    record.target name = .error (.fieldNotFound name) := by
  rw [target, undeclared]

end Record
end RecordQuery
