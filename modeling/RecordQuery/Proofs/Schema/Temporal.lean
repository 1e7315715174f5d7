import RecordQuery.Proofs.Calendar.Apart
import RecordQuery.Proofs.Predicate.Operators
import RecordQuery.Proofs.Predicate.Scalar
import RecordQuery.Proofs.Record.Entries

/-!
# Dates, instants and times in records and in queries

A record reads a text by the one form of the declared kind.  A query tries the forms of date, instant
and time one after the other, and then the numbers.  Since no text has two of the forms, the two
readers agree: what a record makes of a text is what a query makes of it, so a record that was given
the text is found by a query for it.
-/

namespace RecordQuery

open Text RecordQuery.Parser

/-- The kind is that of dates, of instants or of times of day. -/
def Kind.isTemporal : Kind → Bool
  | .date | .dateTime | .time => true
  | _ => false

/-! ## Unquoted operands -/

namespace Value

variable {text : List Char} {value : Value}

theorem kind_of_ofNumber? (denotes : ofNumber? text = some value) :
    value.kind.isTemporal = false := by
  unfold ofNumber? at denotes
  split at denotes
  · obtain ⟨number, -, rfl⟩ := Option.map_eq_some_iff.mp denotes
    rfl
  · split at denotes
    · obtain rfl := Option.some.inj denotes
      rfl
    · obtain ⟨number, -, rfl⟩ := Option.map_eq_some_iff.mp denotes
      rfl

/-- An unquoted operand that stands for a date, an instant or a time has been read as such. -/
theorem read_of_ofScalar? (denotes : ofScalar? text = some value)
    (temporal : value.kind.isTemporal = true) :
    (∃ date, Date.read? text = some date ∧ value = .date date) ∨
    (∃ instant, Instant.read? text = some instant ∧ value = .dateTime instant) ∨
    ∃ time, TimeOfDay.read? text = some time ∧ value = .time time := by
  rcases Option.or_eq_some_iff.mp denotes with first | ⟨-, denotes⟩
  · obtain ⟨date, read, rfl⟩ := Option.map_eq_some_iff.mp first
    exact .inl ⟨date, read, rfl⟩
  · rcases Option.or_eq_some_iff.mp denotes with second | ⟨-, denotes⟩
    · obtain ⟨instant, read, rfl⟩ := Option.map_eq_some_iff.mp second
      exact .inr (.inl ⟨instant, read, rfl⟩)
    · rcases Option.or_eq_some_iff.mp denotes with third | ⟨-, number⟩
      · obtain ⟨time, read, rfl⟩ := Option.map_eq_some_iff.mp third
        exact .inr (.inr ⟨time, read, rfl⟩)
      · rw [kind_of_ofNumber? number] at temporal
        cases temporal

theorem ofScalar?_of_date {date : Date} (read : Date.read? text = some date) :
    ofScalar? text = some (.date date) := by
  simp [ofScalar?, read]

theorem ofScalar?_of_instant {instant : Instant} (read : Instant.read? text = some instant) :
    ofScalar? text = some (.dateTime instant) := by
  simp [ofScalar?, read, (Instant.apart read).1]

theorem ofScalar?_of_time {time : TimeOfDay} (read : TimeOfDay.read? text = some time) :
    ofScalar? text = some (.time time) := by
  obtain ⟨noDate, noInstant⟩ := TimeOfDay.apart read
  simp [ofScalar?, read, noDate, noInstant]

/-- Read by a kind of dates or times, a string stands for what it stands for as an unquoted operand,
if that is of the kind. -/
theorem ofDocument?_eq_ofScalar? {kind : Kind} (temporal : kind.isTemporal = true) {text : String} :
    ofDocument? kind (.string text) = some value ↔
      ofScalar? text.toList = some value ∧ value.kind = kind := by
  constructor
  · intro reads
    refine ⟨?_, kind_of_ofDocument? reads⟩
    cases kind with
    | date =>
        obtain ⟨date, read, rfl⟩ := Option.map_eq_some_iff.mp reads
        exact ofScalar?_of_date read
    | dateTime =>
        obtain ⟨instant, read, rfl⟩ := Option.map_eq_some_iff.mp reads
        exact ofScalar?_of_instant read
    | time =>
        obtain ⟨time, read, rfl⟩ := Option.map_eq_some_iff.mp reads
        exact ofScalar?_of_time read
    | _ => cases temporal
  · rintro ⟨denotes, rfl⟩
    rcases read_of_ofScalar? denotes temporal with
      ⟨date, read, rfl⟩ | ⟨instant, read, rfl⟩ | ⟨time, read, rfl⟩
    · exact Option.map_eq_some_iff.mpr ⟨date, read, rfl⟩
    · exact Option.map_eq_some_iff.mpr ⟨instant, read, rfl⟩
    · exact Option.map_eq_some_iff.mpr ⟨time, read, rfl⟩

/-- A date, an instant or a time is equal to itself. -/
theorem equal?_self (temporal : value.kind.isTemporal = true) : value.equal? value = some true := by
  cases value with
  | date | dateTime | time => simp [equal?]
  | _ => cases temporal

end Value

namespace Field

variable {field : Field} {text : String} {value : Value}

/-- A string under a field of dates or times is converted to what it stands for as an unquoted
operand, if that is of the declared kind. -/
theorem convert_string_eq_ok_iff (temporal : field.kind.isTemporal = true) :
    field.convert (.string text) = .ok (some value) ↔
      Value.ofScalar? text.toList = some value ∧ value.kind = field.kind := by
  rw [← Value.ofDocument?_eq_ofScalar? temporal]
  have noNull : ¬ (Document.string text).isNull = true := Bool.false_ne_true
  rw [convert, if_neg noNull]
  cases reads : Value.ofDocument? field.kind (.string text) with
  | none => simp only [reduceCtorEq]
  | some content =>
      have kind := Value.kind_of_ofDocument? reads
      cases content with
      | enum case =>
          rw [← kind] at temporal
          cases temporal
      | _ => simp

/-- A string does not leave a field unset. -/
theorem convert_string_ne_none (field : Field) (text : String) :
    field.convert (.string text) ≠ .ok none := by
  intro unset
  have noNull : ¬ (Document.string text).isNull = true := Bool.false_ne_true
  rw [convert, if_neg noNull] at unset
  split at unset
  · obtain ⟨value, -, same⟩ := map_eq_ok_iff.mp unset
    cases same
  · cases unset
  · cases unset

end Field

/-- A record holds what the last string under a declared name is converted to. -/
theorem Record.exists_target_of_last {schema : Schema} {name text label : String} {field : Field}
    (declared : schema.field? name = some field) {before after : List (Document × Document)}
    {key : Document} {record : Record} (keyed : key.string? = some name)
    (last : ∀ later ∈ after, later.1.string? ≠ some name)
    (loads : ofEntries schema label (before ++ (key, .string text) :: after) = .ok record) :
    ∃ value, field.convert (.string text) = .ok (some value) ∧
      record.target name = .ok (some value) := by
  obtain ⟨values, hold, rfl⟩ := map_eq_ok_iff.mp loads
  have member : (key, .string text) ∈ before ++ (key, Document.string text) :: after :=
    List.mem_append_right _ List.mem_cons_self
  cases converts : field.convert (.string text) with
  | error error =>
      exact absurd ⟨keyed, field, declared, converts⟩
        (not_converts_of_entryValues hold _ member name error)
  | ok held =>
      cases held with
      | none => exact absurd converts (field.convert_string_ne_none text)
      | some value =>
          have found := lookup_entryValues_of_last hold ⟨keyed, field, declared, converts⟩ last
          exact ⟨value, rfl, target_eq_ok_iff.mpr ⟨⟨field, declared⟩, found⟩⟩

namespace Schema

section Texts

variable {schema : Schema} {name text : String} (named : IsFieldName name)
  (nonempty : text.toList ≠ []) (inside : ∀ c ∈ text.toList, isScalarCharacter c = true)

include named nonempty inside

/-- A query for a text of dates and times is the comparison with what the text stands for. -/
theorem parse_eq_ok_iff_ofScalar? {value : Value} (temporal : value.kind.isTemporal = true) :
    Predicate.parse (name ++ " = " ++ text) = .ok (.compare name (.relates .eq value)) ↔
      Value.ofScalar? text.toList = some value := by
  have same : name ++ " = " ++ text = name ++ " = " ++ String.ofList text.toList := by
    rw [String.ofList_toList]
  rw [same]
  constructor
  · intro read
    refine (Predicate.eq_ofScalar?_of_parse named nonempty inside read).resolve_left fun truth => ?_
    rw [truth] at temporal
    cases temporal
  · intro denotes
    rw [Predicate.parse_scalar named nonempty inside (readBool?_of_ofScalar? denotes), denotes]

theorem convert_eq_ok_iff_parse {field : Field} (temporal : field.kind.isTemporal = true)
    (value : Value) : field.convert (.string text) = .ok (some value) ↔
      Predicate.parse (name ++ " = " ++ text) = .ok (.compare name (.relates .eq value)) ∧
        value.kind = field.kind := by
  rw [Field.convert_string_eq_ok_iff temporal]
  refine and_congr_left fun kind => (parse_eq_ok_iff_ofScalar? named nonempty inside ?_).symm
  rw [kind]
  exact temporal

/-- A text of the characters of unquoted operands means the same in a record and in a query.  A field
of dates, instants or times converts it to a value exactly if a query for it is the comparison with
that value, and the value is of the declared kind.  So what any such field makes of the text is the
only thing that a query makes of it, and a record that was given the text satisfies the query. -/
theorem convert_agrees_with_parse {field : Field} (declared : schema.field? name = some field)
    (temporal : field.kind.isTemporal = true) :
    (∀ value, field.convert (.string text) = .ok (some value) ↔
      Predicate.parse (name ++ " = " ++ text) = .ok (.compare name (.relates .eq value)) ∧
        value.kind = field.kind) ∧
    (∀ other : Field, other.kind.isTemporal = true →
      ∀ value, other.convert (.string text) = .ok (some value) →
        ∀ predicate, Predicate.parse (name ++ " = " ++ text) = .ok predicate →
          predicate = .compare name (.relates .eq value)) ∧
    ∀ label before key after record, key.string? = some name →
      (∀ later ∈ after, later.1.string? ≠ some name) →
        Record.ofEntries schema label (before ++ (key, .string text) :: after) = .ok record →
          ∃ predicate, Predicate.parse (name ++ " = " ++ text) = .ok predicate ∧
            predicate.evaluate record.target = .ok true := by
  refine ⟨convert_eq_ok_iff_parse named nonempty inside temporal, ?single, ?found⟩
  case single =>
    intro other otherTemporal value converts predicate read
    have same := ((convert_eq_ok_iff_parse named nonempty inside otherTemporal value).mp converts).1
    exact Except.ok.inj (read.symm.trans same)
  case found =>
    intro label before key after record keyed last loads
    obtain ⟨value, converts, held⟩ := Record.exists_target_of_last declared keyed last loads
    obtain ⟨read, kind⟩ :=
      (convert_eq_ok_iff_parse named nonempty inside temporal value).mp converts
    refine ⟨_, read, ?_⟩
    have equal : value.equal? value = some true := Value.equal?_self (kind ▸ temporal)
    rw [Predicate.evaluate_compare_of_value held, Condition.test, Relation.holds?, equal]
    rfl

end Texts

/-- A schema of an instant and a time of day. -/
def eventSchema : Schema := ⟨"Event", [⟨"starts", .dateTime, []⟩, ⟨"opens", .time, []⟩]⟩

/-- A late evening at the end of June. -/
def juneEvening : Instant where
  date := { year := 2025, month := 6, day := 30 }
  time := { hour := 22, minute := 15, second := 7, nano := 250000000 }

theorem convert_agrees_with_parse_juneEvening :
    eventSchema.field? "starts" = some ⟨"starts", .dateTime, []⟩ ∧
      (∀ c ∈ "2025-07-01T00:15:07.25+02:00".toList, isScalarCharacter c = true) ∧
      Field.convert ⟨"starts", .dateTime, []⟩ (.string "2025-07-01T00:15:07.25+02:00") =
        .ok (some (.dateTime juneEvening)) ∧
      Predicate.parse ("starts" ++ " = " ++ "2025-07-01T00:15:07.25+02:00") =
        .ok (.compare "starts" (.relates .eq (.dateTime juneEvening))) ∧
      (Predicate.compare "starts" (.relates .eq (.dateTime juneEvening))).evaluate
        (Record.target ⟨eventSchema, "gala", [("starts", .dateTime juneEvening)]⟩) = .ok true := by
  have declared : eventSchema.field? "starts" = some ⟨"starts", .dateTime, []⟩ := by rfl
  have inside : ∀ c ∈ "2025-07-01T00:15:07.25+02:00".toList, isScalarCharacter c = true :=
    List.all_eq_true.mp (by rfl)
  have converts : Field.convert ⟨"starts", .dateTime, []⟩ (.string "2025-07-01T00:15:07.25+02:00") =
      .ok (some (.dateTime juneEvening)) := by rfl
  have loads : Record.ofEntries eventSchema "gala"
      ([] ++ (.string "starts", .string "2025-07-01T00:15:07.25+02:00") :: []) =
        .ok ⟨eventSchema, "gala", [("starts", .dateTime juneEvening)]⟩ := by rfl
  have agrees := convert_agrees_with_parse (by decide : IsFieldName "starts") (by decide) inside
    declared rfl
  have read := ((agrees.1 _).mp converts).1
  obtain ⟨predicate, same, finds⟩ := agrees.2.2 "gala" [] (.string "starts") [] _ rfl nofun loads
  obtain rfl := Except.ok.inj (same.symm.trans read)
  exact ⟨declared, inside, converts, read, finds⟩

end Schema
end RecordQuery
