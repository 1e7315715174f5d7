import RecordQuery.Proofs.Record.Entries

/-!
# What a record does not depend on

Loading looks at nothing but the entries under declared names, and at each of them for itself.  So two
mappings that agree on these entries are both loaded or both refused, whatever else they hold and in
whatever order; and no predicate tells the two records apart.
-/

namespace RecordQuery

/-- No key of the mapping stands under a tag, and none stands twice. -/
structure Document.HasPlainKeys (entries : List (Document × Document)) : Prop where
  /-- The keys stand under no tags. -/
  untagged : ∀ entry ∈ entries, entry.1.untagged = entry.1
  /-- The keys are all different. -/
  unique : entries.Pairwise fun entry later => entry.1.sameKey later.1 = false

/-- The mappings hold the same contents under the declared names. -/
def Schema.Agree (schema : Schema) (entries others : List (Document × Document)) : Prop :=
  ∀ name field, schema.field? name = some field → ∀ content,
    (.string name, content) ∈ entries ↔ (.string name, content) ∈ others

namespace Record

variable {schema : Schema} {entries others : List (Document × Document)}

/-- A mapping is loaded exactly if no entry of it is refused. -/
theorem exists_ofEntries_eq_ok_iff {label : String} :
    (∃ record, ofEntries schema label entries = .ok record) ↔
      ∀ name error, ¬ ∃ entry ∈ entries, schema.Converts entry name (.error error) := by
  cases loads : ofEntries schema label entries with
  | ok record =>
      refine ⟨?_, fun _ => ⟨record, rfl⟩⟩
      rintro - name error ⟨entry, member, converts⟩
      have refused : ∃ error, ofEntries schema label entries = .error error :=
        exists_ofEntries_eq_error_iff.mpr ⟨entry, member, name, error, converts⟩
      obtain ⟨error, fails⟩ := refused
      cases loads.symm.trans fails
  | error error =>
      refine ⟨nofun, fun converts => ?_⟩
      obtain ⟨entry, member, name, error, refused⟩ :=
        exists_ofEntries_eq_error_iff.mp ⟨error, loads⟩
      exact absurd ⟨entry, member, refused⟩ (converts name error)

/-- What is converted to a result in one of two mappings that agree is so in the other. -/
theorem exists_converts_congr (agree : schema.Agree entries others)
    (plain : Document.HasPlainKeys entries) (plainOthers : Document.HasPlainKeys others)
    (name : String) (result : Except SchemaError (Option Value)) :
    (∃ entry ∈ entries, schema.Converts entry name result) ↔
      ∃ entry ∈ others, schema.Converts entry name result := by
  rw [converts_iff plain.untagged, converts_iff plainOthers.untagged]
  constructor
  · rintro ⟨field, content, declared, member, converts⟩
    exact ⟨field, content, declared, (agree name field declared content).mp member, converts⟩
  · rintro ⟨field, content, declared, member, converts⟩
    exact ⟨field, content, declared, (agree name field declared content).mpr member, converts⟩

/-- The records of two mappings that agree hold the same under every name. -/
theorem target_congr (agree : schema.Agree entries others) (plain : Document.HasPlainKeys entries)
    (plainOthers : Document.HasPlainKeys others) {label otherLabel : String} {record other : Record}
    (loads : ofEntries schema label entries = .ok record)
    (loadsOther : ofEntries schema otherLabel others = .ok other) : record.target = other.target := by
  have sameSchema : record.schema = schema := IsLoaded.schema_eq ⟨label, entries, loads⟩
  have otherSchema : other.schema = schema := IsLoaded.schema_eq ⟨otherLabel, others, loadsOther⟩
  have held (name : String) : record.get? name = other.get? name := by
    refine Option.ext fun value => ?_
    rw [get?_eq_some_iff plain.untagged plain.unique loads,
      get?_eq_some_iff plainOthers.untagged plainOthers.unique loadsOther,
      ← converts_iff plain.untagged, ← converts_iff plainOthers.untagged]
    exact exists_converts_congr agree plain plainOthers name _
  funext name
  rw [target, target, sameSchema, otherSchema, held]

/-- Two mappings with the same entries under the declared names, in any order and among any others,
are both loaded or both refused, and every predicate has the same value or the same error on both
records. -/
theorem evaluate_of_agree (plain : Document.HasPlainKeys entries)
    (plainOthers : Document.HasPlainKeys others) (agree : schema.Agree entries others)
    (label otherLabel : String) :
    ((∃ record, ofEntries schema label entries = .ok record) ↔
      ∃ other, ofEntries schema otherLabel others = .ok other) ∧
    ∀ record other, ofEntries schema label entries = .ok record →
      ofEntries schema otherLabel others = .ok other →
      ∀ predicate : Predicate,
        predicate.evaluate record.target = predicate.evaluate other.target := by
  refine ⟨?_, fun record other loads loadsOther predicate => ?_⟩
  · rw [exists_ofEntries_eq_ok_iff, exists_ofEntries_eq_ok_iff]
    simp only [exists_converts_congr agree plain plainOthers]
  · rw [target_congr agree plain plainOthers loads loadsOther]

/-- The declared entries of a note in another order, between others. -/
def shuffledNoteEntries (size : Document) : List (Document × Document) :=
  [(.sequence [], .null), (.string "size", size), (.string "colours", .sequence []),
    (.string "text", .null), (.bool false, .int 7), (.string "state", .string "open")]

theorem agree_noteEntries (size : Document) :
    noteSchema.Agree (noteEntries size) (shuffledNoteEntries size) := by
  intro name field declared content
  have known : name ∈ noteSchema.fields.map (·.name) := by
    rw [← Schema.name_of_field? declared]
    exact List.mem_map_of_mem (List.mem_of_find?_eq_some declared)
  simp only [noteSchema, List.map_cons, List.map_nil, List.mem_cons, List.not_mem_nil,
    or_false] at known
  rcases known with rfl | rfl | rfl | rfl <;> simp [noteEntries, shuffledNoteEntries]

theorem evaluate_of_agree_noteEntries :
    (∃ record other, ofEntries noteSchema "a" (noteEntries (.int 3)) = .ok record ∧
      ofEntries noteSchema "b" (shuffledNoteEntries (.int 3)) = .ok other ∧
      record.values ≠ other.values ∧
      ∀ predicate : Predicate,
        predicate.evaluate record.target = predicate.evaluate other.target) ∧
    ¬ ∃ other, ofEntries noteSchema "b" (shuffledNoteEntries (.string "large")) = .ok other := by
  have plain (size : Document) : Document.HasPlainKeys (noteEntries size) :=
    ⟨by simp [noteEntries, Document.untagged], by simp [noteEntries, Document.sameKey]⟩
  have plainOthers (size : Document) : Document.HasPlainKeys (shuffledNoteEntries size) :=
    ⟨by simp [shuffledNoteEntries, Document.untagged],
      by simp [shuffledNoteEntries, Document.sameKey]⟩
  have same (size : Document) := evaluate_of_agree (plain size) (plainOthers size)
    (agree_noteEntries size) "a" "b"
  have loads : ofEntries noteSchema "a" (noteEntries (.int 3)) =
      .ok ⟨noteSchema, "a", [("size", .int 3), ("state", .enum "open")]⟩ := rfl
  have loadsOther : ofEntries noteSchema "b" (shuffledNoteEntries (.int 3)) =
      .ok ⟨noteSchema, "b", [("state", .enum "open"), ("size", .int 3)]⟩ := rfl
  constructor
  · exact ⟨_, _, loads, loadsOther, by decide, (same _).2 _ _ loads loadsOther⟩
  · rw [← (same _).1]
    rintro ⟨record, loads⟩
    cases loads

end Record
end RecordQuery
