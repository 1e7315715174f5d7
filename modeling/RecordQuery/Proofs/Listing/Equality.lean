import RecordQuery.Proofs.Listing.Counts
import RecordQuery.Proofs.Predicate.Operators
import RecordQuery.Proofs.Value.Text

/-!
# Counts and queries for equality

A listing counts texts and a query compares values.  Under a field of any kind but double the two
agree: the count beside a value is the number of records that the query for it finds.
-/

namespace RecordQuery

/-- A loaded record satisfies the query for a value of the declared kind exactly if it is listed by
the text of the value. -/
theorem Record.IsLoaded.evaluate_eq_iff_listed {schema : Schema} {record : Record} {name : String}
    {field : Field} {value : Value} (loaded : record.IsLoaded schema)
    (declared : schema.field? name = some field) (noDouble : field.kind ≠ .double)
    (kind : value.kind = field.kind) :
    (Predicate.compare name (.relates .eq value)).evaluate record.target = .ok true ↔
      record.target.listed? name = some (toString value) := by
  rw [Target.listed?]
  have known : record.target name = .ok (record.get? name) :=
    record.target_of_declared (by rw [loaded.schema_eq, declared])
  cases holds : record.get? name with
  | none =>
      rw [holds] at known
      rw [Predicate.evaluate, known]
      constructor
      · intro unset
        cases unset
      · intro unset
        cases unset
  | some held =>
      rw [holds] at known
      obtain ⟨field', declared', admits⟩ := loaded.conforms name held known
      obtain rfl := Option.some.inj (declared.symm.trans declared')
      have same := Value.equal?_eq_toString (admits.kind.trans kind.symm) (admits.kind ▸ noDouble)
      rw [Predicate.evaluate_compare_of_value known, Condition.test, Relation.holds?, same, known,
        Condition.supported, Except.ok.injEq, beq_iff_eq, Option.some.injEq]

namespace Listing

variable {schema : Schema} {records : List Record} {name : String} {field : Field}

theorem exists_collect_of_declared (same : ∀ record ∈ records, record.schema = schema)
    (declared : schema.field? name = some field) :
    ∃ counts, collect (records.map Record.target) name = .ok counts := by
  refine exists_collect_iff.mpr fun target member => ?_
  obtain ⟨record, inside, rfl⟩ := List.mem_map.mp member
  exact ⟨_, record.target_of_declared (by rw [same record inside, declared])⟩

/-- The number of texts that are listed is the number of records in which the field is set. -/
theorem length_listed (same : ∀ record ∈ records, record.schema = schema)
    (declared : schema.field? name = some field) :
    ((records.map Record.target).filterMap (·.listed? name)).length =
      records.countP fun record => (record.get? name).isSome := by
  rw [List.filterMap_map, List.length_filterMap_eq_countP]
  refine List.countP_congr fun record member => ?_
  have known : record.target name = .ok (record.get? name) :=
    record.target_of_declared (by rw [same record member, declared])
  rw [Function.comp_apply, Target.listed?, known]
  cases record.get? name <;> rfl

/-- The values of a declared field of another kind than double can be counted.  The count under the
text of a value that is held is the number of the records that satisfy the query for it, the counts
add up to the number of the records in which the field is set, and different values of the field have
different texts. -/
theorem counts_agree_with_query (loaded : ∀ record ∈ records, record.IsLoaded schema)
    (declared : schema.field? name = some field) (noDouble : field.kind ≠ .double) :
    (∃ counts, collect (records.map Record.target) name = .ok counts ∧
      (counts.map Prod.fst).Nodup ∧
      (∀ record ∈ records, ∀ value, record.target name = .ok (some value) →
        counts.lookup (toString value) = some (records.countP fun other =>
          (Predicate.compare name (.relates .eq value)).evaluate other.target = .ok true)) ∧
      (counts.map Prod.snd).sum = records.countP fun record => (record.get? name).isSome) ∧
    ∀ a b : Value, a.kind = field.kind → b.kind = field.kind → a ≠ b → toString a ≠ toString b := by
  have same : ∀ record ∈ records, record.schema = schema :=
    fun record member => (loaded record member).schema_eq
  obtain ⟨counts, collects⟩ := exists_collect_of_declared same declared
  have tallies := tallies_of_collect collects
  refine ⟨⟨counts, collects, tallies.unique, ?count, ?sum⟩, ?apart⟩
  case count =>
    intro record member value held
    obtain ⟨field', declared', admits⟩ := (loaded record member).conforms name value held
    obtain rfl := Option.some.inj (declared.symm.trans declared')
    have listed : record.target.listed? name = some (toString value) :=
      Target.listed?_eq_some_iff.mpr ⟨value, held, rfl⟩
    have queried : (records.countP fun other =>
        (Predicate.compare name (.relates .eq value)).evaluate other.target = .ok true) =
          records.countP fun other => other.target.listed? name = some (toString value) := by
      refine List.countP_congr fun other inside => ?_
      simpa using (loaded other inside).evaluate_eq_iff_listed declared noDouble admits.kind
    rw [tallies.lookup_eq_some_iff, count_listed, queried]
    exact ⟨List.countP_pos_iff.mpr ⟨record, member, decide_eq_true listed⟩, rfl⟩
  case sum => rw [tallies.sum_eq, length_listed same declared]
  case apart =>
    intro a b first second differ same
    exact differ ((Value.toString_inj (first.trans second.symm) (first ▸ noDouble)).mp same)

/-- A schema of a date alone. -/
def taskSchema : Schema := ⟨"Task", [⟨"due", .date, []⟩]⟩

/-- The last day of February 2024. -/
def leapDay : Date where
  year := 2024
  month := 2
  day := 29

/-- Two tasks for that day, one of them given with a short month, and one without a date. -/
def leapTasks : List Record :=
  [⟨taskSchema, "a", [("due", .date leapDay)]⟩, ⟨taskSchema, "b", []⟩,
    ⟨taskSchema, "c", [("due", .date leapDay)]⟩]

theorem counts_agree_with_query_leapTasks :
    (∀ record ∈ leapTasks, record.IsLoaded taskSchema) ∧
      taskSchema.field? "due" = some ⟨"due", .date, []⟩ ∧
      ∃ counts, collect (leapTasks.map Record.target) "due" = .ok counts ∧
        counts.lookup "2024-02-29" = some 2 ∧ (counts.map Prod.snd).sum = 2 := by
  have loaded : ∀ record ∈ leapTasks, record.IsLoaded taskSchema := by
    refine List.forall_mem_cons.mpr ⟨?long, List.forall_mem_cons.mpr ⟨?unset,
      List.forall_mem_singleton.mpr ?short⟩⟩
    case long => exact ⟨"a", [(.string "due", .string "2024-02-29")], by rfl⟩
    case unset => exact ⟨"b", [(.string "due", .null)], by rfl⟩
    case short => exact ⟨"c", [(.string "due", .string "2024-2-29")], by rfl⟩
  have declared : taskSchema.field? "due" = some ⟨"due", .date, []⟩ := by rfl
  obtain ⟨⟨counts, collects, -, held, sum⟩, -⟩ :=
    counts_agree_with_query loaded declared (by decide)
  refine ⟨loaded, declared, counts, collects, ?_, sum⟩
  exact held ⟨taskSchema, "a", [("due", .date leapDay)]⟩ List.mem_cons_self (.date leapDay) rfl

end Listing
end RecordQuery
