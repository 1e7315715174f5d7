import RecordQuery.Proofs.Record.Refusal

/-!
# What comes of a document

A document gives all of its records or none.  A sequence gives a record for each item, which has the
number of the item in its label, or else the error of the first item that is refused; and that is the
error of the first bad entry of the item, unless the item is no mapping.
-/

namespace RecordQuery

namespace Schema

/-- The first entry of the mapping that does not convert fails with the error. -/
def FailsAtEntry (schema : Schema) (entries : List (Document × Document)) (error : SchemaError) :
    Prop :=
  ∃ before entry after name, entries = before ++ entry :: after ∧
    (∀ earlier ∈ before, ∀ name error, ¬ schema.Converts earlier name (.error error)) ∧
      schema.Converts entry name (.error error)

/-- The item of a sequence is refused with the error. -/
inductive FailsAtItem (schema : Schema) (path : String) (item : Document) : SchemaError → Prop where
  /-- The item is no mapping. -/
  | noMapping (other : item.entries? = none) : FailsAtItem schema path item (.notAMapping path)
  /-- An entry of the item does not convert. -/
  | mapping {entries : List (Document × Document)} {error : SchemaError}
      (mapping : item.entries? = some entries) (first : schema.FailsAtEntry entries error) :
      FailsAtItem schema path item error

end Schema

namespace Record

/-- The records of a document under a label, or the error that takes their place. -/
inductive Loads (schema : Schema) (path label : String) :
    Document → Except SchemaError (List Record) → Prop where
  /-- A mapping is one record. -/
  | mapping {entries : List (Document × Document)} {record : Record}
      (labelled : record.label = label) (loads : ofEntries schema label entries = .ok record) :
      Loads schema path label (.mapping entries) (.ok [record])
  /-- The first bad entry of a mapping decides. -/
  | badMapping {entries : List (Document × Document)} {error : SchemaError}
      (first : schema.FailsAtEntry entries error) :
      Loads schema path label (.mapping entries) (.error error)
  /-- A sequence is a record for each item, with the number of the item in its label. -/
  | sequence {items : List Document} {records : List Record}
      (count : records.length = items.length)
      (each : ∀ (number : Nat) (item : Document) (record : Record),
        items[number]? = some item → records[number]? = some record →
        record.label = label ++ "#" ++ toString number ∧
          ∃ entries, item.entries? = some entries ∧
            ofEntries schema (label ++ "#" ++ toString number) entries = .ok record) :
      Loads schema path label (.sequence items) (.ok records)
  /-- The first bad item of a sequence decides. -/
  | badSequence {before : List Document} {item : Document} {after : List Document}
      {error : SchemaError} (good : ∀ earlier ∈ before, ¬ schema.RefusesItem earlier)
      (first : schema.FailsAtItem path item error) :
      Loads schema path label (.sequence (before ++ item :: after)) (.error error)
  /-- Nothing else is a record. -/
  | shapeless {document : Document} (noMapping : ∀ entries, document ≠ .mapping entries)
      (noSequence : ∀ items, document ≠ .sequence items) :
      Loads schema path label document (.error (.notAMapping path))

variable {schema : Schema} {path label : String}

theorem label_of_ofEntries {entries : List (Document × Document)} {record : Record}
    (loads : ofEntries schema label entries = .ok record) : record.label = label := by
  obtain ⟨values, -, rfl⟩ := map_eq_ok_iff.mp loads
  rfl

theorem ofEntries_eq_error_iff_failsAtEntry {entries : List (Document × Document)}
    {error : SchemaError} :
    ofEntries schema label entries = .error error ↔ schema.FailsAtEntry entries error :=
  ofEntries_eq_error_iff.trans entryValues_eq_error_iff

/-! ## Items -/

theorem ofItem_eq_ok_iff {item : Document} {record : Record} :
    ofItem schema path label item = .ok record ↔
      ∃ entries, item.entries? = some entries ∧ ofEntries schema label entries = .ok record := by
  rw [ofItem]
  cases item.entries? with
  | none => simp
  | some entries => simp

theorem ofItem_eq_error_iff {item : Document} {error : SchemaError} :
    ofItem schema path label item = .error error ↔ schema.FailsAtItem path item error := by
  rw [ofItem]
  cases shape : item.entries? with
  | none =>
      constructor
      · intro fails
        obtain rfl := Except.error.inj fails
        exact .noMapping shape
      · intro fails
        cases fails with
        | noMapping => rfl
        | mapping same =>
            rw [shape] at same
            cases same
  | some entries =>
      refine ofEntries_eq_error_iff_failsAtEntry.trans ⟨.mapping shape, fun fails => ?_⟩
      cases fails with
      | noMapping other =>
          rw [shape] at other
          cases other
      | mapping same first =>
          rw [shape] at same
          obtain rfl := Option.some.inj same
          exact first

theorem not_refusesItem_iff (path label : String) {item : Document} :
    ¬ schema.RefusesItem item ↔ ∃ record, ofItem schema path label item = .ok record := by
  rw [← @exists_ofItem_eq_error_iff schema path label]
  cases ofItem schema path label item <;> simp

theorem ofItems_eq_error_iff_refusesFirst {number : Nat} {items : List Document}
    {error : SchemaError} :
    ofItems schema path label number items = .error error ↔
      RefusesFirst (ofItem schema path label) items error := by
  induction items generalizing number with
  | nil => exact ⟨nofun, fun first => absurd first not_refusesFirst_nil⟩
  | cons item items ih =>
      -- The number of an item is in the label of its record, and in no error.
      rw [ofItems_cons, refusesFirst_cons]
      refine bind_both_eq_error_iff.trans ?_
      rw [ofItem_eq_error_iff, ofItem_eq_error_iff, ← not_refusesItem_iff, ← not_refusesItem_iff,
        ih]

/-- A sequence is refused with the error of its first item that is refused. -/
theorem ofItems_eq_error_iff {number : Nat} {items : List Document} {error : SchemaError} :
    ofItems schema path label number items = .error error ↔
      ∃ before item after, items = before ++ item :: after ∧
        (∀ earlier ∈ before, ¬ schema.RefusesItem earlier) ∧
          schema.FailsAtItem path item error := by
  rw [ofItems_eq_error_iff_refusesFirst]
  simp only [RefusesFirst, ofItem_eq_error_iff, not_refusesItem_iff path label]

/-- A sequence is loaded as the records of its items, each under the label with its number. -/
theorem ofItems_eq_ok_iff {number : Nat} {items : List Document} {records : List Record} :
    ofItems schema path label number items = .ok records ↔
      records.length = items.length ∧
        ∀ (index : Nat) (item : Document) (record : Record), items[index]? = some item →
          records[index]? = some record →
          ofItem schema path (label ++ "#" ++ toString (number + index)) item = .ok record := by
  induction items generalizing number records with
  | nil =>
      rw [ofItems, Except.ok.injEq, List.length_nil, List.length_eq_zero_iff, eq_comm]
      refine ⟨fun empty => ⟨empty, fun index item record inside => ?_⟩, And.left⟩
      cases inside
  | cons item items ih =>
      rw [ofItems_cons]
      constructor
      · intro loads
        obtain ⟨record, itemLoads, loads⟩ := bind_eq_ok_iff.mp loads
        obtain ⟨later, laterLoad, same⟩ := bind_eq_ok_iff.mp loads
        obtain rfl := Except.ok.inj same
        obtain ⟨count, each⟩ := ih.mp laterLoad
        refine ⟨congrArg (· + 1) count, fun index => ?_⟩
        cases index with
        | zero =>
            rintro _ _ ⟨⟩ ⟨⟩
            exact itemLoads
        | succ index =>
            intro other otherRecord inside insideRecord
            rw [← Nat.succ_add_eq_add_succ]
            exact each index other otherRecord inside insideRecord
      · rintro ⟨count, each⟩
        cases records with
        | nil => cases count
        | cons record records =>
            refine bind_eq_ok_iff.mpr ⟨record, each 0 item record rfl rfl, ?_⟩
            refine bind_eq_ok_iff.mpr ⟨records, ih.mpr ⟨Nat.succ.inj count, ?_⟩, rfl⟩
            intro index other otherRecord inside insideRecord
            rw [Nat.succ_add_eq_add_succ]
            exact each (index + 1) other otherRecord inside insideRecord

/-! ## Documents -/

theorem loads_of_ofDocument (document : Document) :
    Loads schema path label document (ofDocument schema path label document) := by
  unfold ofDocument
  split
  next entries =>
    cases loads : ofEntries schema label entries with
    | ok record => exact .mapping (label_of_ofEntries loads) loads
    | error error => exact .badMapping (ofEntries_eq_error_iff_failsAtEntry.mp loads)
  next items =>
    cases loads : ofItems schema path label 0 items with
    | ok records =>
        obtain ⟨count, each⟩ := ofItems_eq_ok_iff.mp loads
        refine .sequence count fun number item record inside insideRecord => ?_
        have loads := each number item record inside insideRecord
        rw [Nat.zero_add] at loads
        obtain ⟨entries, shape, loads⟩ := ofItem_eq_ok_iff.mp loads
        exact ⟨label_of_ofEntries loads, entries, shape, loads⟩
    | error error =>
        obtain ⟨before, item, after, rfl, good, first⟩ := ofItems_eq_error_iff.mp loads
        exact .badSequence good first
  next noMapping noSequence => exact .shapeless noMapping noSequence

theorem eq_ofDocument_of_loads {document : Document} {outcome : Except SchemaError (List Record)}
    (loads : Loads schema path label document outcome) :
    ofDocument schema path label document = outcome := by
  cases loads with
  | mapping labelled loads => exact map_eq_ok_iff.mpr ⟨_, loads, rfl⟩
  | badMapping first =>
      exact map_eq_error_iff.mpr (ofEntries_eq_error_iff_failsAtEntry.mpr first)
  | sequence count each =>
      refine ofItems_eq_ok_iff.mpr ⟨count, fun number item record inside insideRecord => ?_⟩
      rw [Nat.zero_add]
      exact ofItem_eq_ok_iff.mpr (each number item record inside insideRecord).2
  | badSequence good first => exact ofItems_eq_error_iff.mpr ⟨_, _, _, rfl, good, first⟩
  | shapeless noMapping noSequence =>
      unfold ofDocument
      split
      next entries => exact absurd rfl (noMapping entries)
      next items => exact absurd rfl (noSequence items)
      next => rfl

/-- A document gives exactly the outcome that the rules give it, all of its records or one error.  The
same goes for the file that holds it. -/
theorem load_outcome (schema : Schema) (path label : String) (document : Document) :
    (∀ outcome, ofDocument schema path label document = outcome ↔
      Loads schema path label document outcome) ∧
    ∀ (tree : Files.Tree) (text : String), tree.read path = .ok text →
      Document.read? text = some document →
      ∀ outcome, load tree schema path label = outcome ↔
        Loads schema path label document outcome := by
  have decides (outcome : Except SchemaError (List Record)) :
      ofDocument schema path label document = outcome ↔
        Loads schema path label document outcome :=
    ⟨fun same => same ▸ loads_of_ofDocument document, eq_ofDocument_of_loads⟩
  refine ⟨decides, fun tree text reads holds outcome => ?_⟩
  rw [load, reads]
  dsimp only
  rw [holds]
  exact decides outcome

/-- Two notes, the second under a tag. -/
def twoNotes : List Document :=
  [.mapping [(.string "text", .string "A")],
    .tagged "!draft" (.mapping [(.string "text", .string "B")])]

/-- A text of these notes before an item that is no mapping and one with a bad size. -/
def mixedItems : String :=
  "- \"text\": \"A\"\n- !draft \x7b\"text\": \"B\"\x7d\n- 5\n- \"size\": \"large\"\n"

/-- The tree with these items in its only file. -/
def mixedTree : Files.Tree := ⟨.directory [("notes.yaml", .file mixedItems)], []⟩

theorem read?_mixedItems : Document.read? mixedItems =
    some (.sequence (twoNotes ++ .int 5 :: [.mapping [(.string "size", .string "large")]])) := by
  have node : Yaml.Node.read? mixedItems = some (.sequence
      [.mapping [(.scalar false "text", .scalar false "A")],
        .tagged "!draft" (.mapping [(.scalar false "text", .scalar false "B")]),
        .scalar true "5", .mapping [(.scalar false "size", .scalar false "large")]]) := by
    decide +kernel
  rw [Document.read?, Document.ofText?, node]
  rfl

theorem load_outcome_mixedItems :
    mixedTree.read "notes.yaml" = .ok mixedItems ∧
      load mixedTree noteSchema "notes.yaml" "notes.yaml" = .error (.notAMapping "notes.yaml") ∧
      ofDocument noteSchema "notes.yaml" "notes.yaml" (.sequence twoNotes) =
        .ok [⟨noteSchema, "notes.yaml#0", [("text", .string "A")]⟩,
          ⟨noteSchema, "notes.yaml#1", [("text", .string "B")]⟩] := by
  have good : ∀ earlier ∈ twoNotes, ¬ noteSchema.RefusesItem earlier := by
    refine List.forall_mem_cons.mpr ⟨?_, List.forall_mem_singleton.mpr ?_⟩
    · exact (not_refusesItem_iff "" "").mpr ⟨_, rfl⟩
    · exact (not_refusesItem_iff "" "").mpr ⟨_, rfl⟩
  have outcome := load_outcome noteSchema "notes.yaml" "notes.yaml"
  refine ⟨rfl, ?_, ?_⟩
  · exact ((outcome _).2 mixedTree mixedItems rfl read?_mixedItems _).mpr
      (.badSequence good (.noMapping rfl))
  · refine ((outcome _).1 _).mpr (.sequence rfl ?_)
    intro number item record inside insideRecord
    match number with
    | 0 =>
        obtain rfl := Option.some.inj inside
        obtain rfl := Option.some.inj insideRecord
        exact ⟨rfl, _, rfl, rfl⟩
    | 1 =>
        obtain rfl := Option.some.inj inside
        obtain rfl := Option.some.inj insideRecord
        exact ⟨rfl, _, rfl, rfl⟩
    | number + 2 => cases inside

end Record
end RecordQuery
