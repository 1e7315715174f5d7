import RecordQuery.Proofs.Predicate.Failure
import RecordQuery.Proofs.Schema.Binding

/-!
# What can go wrong after binding

A bound predicate asks for declared fields only, by operators that their kinds support.  On a record
of the schema one thing is left that can fail: an operand of another class than the field.  A
predicate whose operands fit has a value on every record, so filtering never fails.
-/

namespace RecordQuery

namespace Kind

theorem not_isOrdering_of_supports {operator : Operator}
    (supported : bool.supports operator = true) : operator.isOrdering = false := by
  simp only [supports, Bool.and_eq_true, Bool.not_eq_true'] at supported
  exact supported.1

theorem eq_string_of_supports {kind : Kind} {operator : Operator}
    (supported : kind.supports operator = true) (search : operator.isTextTest = true) :
    kind = .string := by
  cases kind with
  | string => rfl
  | _ => simp [supports, search] at supported

/-- An operator that a kind supports compares it with all kinds of its class. -/
theorem compares_of_supports {kind other : Kind} {operator : Operator}
    (supported : kind.supports operator = true)
    (sameClass : kind.comparisonClass = other.comparisonClass) : operator.Compares kind other where
  sameClass := sameClass
  ordered := by
    rintro ordering rfl
    rw [not_isOrdering_of_supports supported] at ordering
    cases ordering
  searched := eq_string_of_supports supported

end Kind

theorem Condition.kind_of_isTextTest {condition : Condition} {operand : Value}
    (search : condition.operator.isTextTest = true) (member : operand ∈ condition.operands) :
    operand.kind = .string := by
  cases condition with
  | finds test needle =>
      rw [List.mem_singleton.mp member]
      rfl
  | relates | between => cases search

theorem Field.Binds.operator_eq {field : Field} {condition bound : Condition}
    (binds : field.Binds condition bound) : bound.operator = condition.operator := by
  cases binds with
  | case | unchanged => rfl

namespace Schema

variable {schema : Schema}

/-- A comparison of a declared field by an operator that its kind supports. -/
def Supports (schema : Schema) (comparison : String × Condition) : Prop :=
  ∃ field, schema.field? comparison.1 = some field ∧
    field.kind.supports comparison.2.operator = true

/-- Every operand is of the class of the kind that the field is declared with. -/
def Fits (schema : Schema) (predicate : Predicate) : Prop :=
  ∀ comparison ∈ predicate.comparisons, ∀ field ∈ schema.field? comparison.1,
    ∀ operand ∈ comparison.2.operands,
      field.kind.comparisonClass = operand.kind.comparisonClass

instance (schema : Schema) (predicate : Predicate) : Decidable (schema.Fits predicate) :=
  inferInstanceAs (Decidable (∀ comparison ∈ predicate.comparisons,
    ∀ field ∈ schema.field? comparison.1, ∀ operand ∈ comparison.2.operands,
      field.kind.comparisonClass = operand.kind.comparisonClass))

/-- The error of comparing a field with an operand of another class.  It names the declared kind and
the kind of the operand, and the operator looks for no text and does not order Booleans. -/
inductive Mismatch (schema : Schema) (predicate : Predicate) : EvaluationError → Prop where
  | operand {name : String} {condition : Condition} {field : Field} {operand : Value} :
      (name, condition) ∈ predicate.comparisons → schema.field? name = some field →
        operand ∈ condition.operands → condition.operator.isTextTest = false →
          (condition.operator.isOrdering = true → field.kind ≠ .bool) →
            field.kind.comparisonClass ≠ operand.kind.comparisonClass →
              Mismatch schema predicate
                (.unsupportedComparison field.kind operand.kind condition.operator)

theorem supports_of_bind {predicate bound : Predicate} (binds : schema.bind predicate = .ok bound) :
    ∀ comparison ∈ bound.comparisons, schema.Supports comparison := by
  intro comparison member
  obtain ⟨original, -, same, field, declared, bindsCondition⟩ :=
    exists_mem_of_forall₂ (comparisons_of_bind binds).flip member
  obtain ⟨supported, binds⟩ := Field.bindCondition_eq_ok_iff.mp bindsCondition
  rw [← binds.operator_eq] at supported
  exact ⟨field, same ▸ declared, supported⟩

end Schema

namespace Record

variable {schema : Schema} {record : Record}

/-- A bound predicate fails on a record because of an operand of the wrong class, and for no other
reason. -/
theorem mismatch_of_evaluate_eq_error {predicate bound : Predicate}
    (binds : schema.bind predicate = .ok bound) (loaded : record.IsLoaded schema)
    {error : EvaluationError} (fails : bound.evaluate record.target = .error error) :
    schema.Mismatch bound error := by
  obtain ⟨⟨name, condition⟩, member, comparisonFails⟩ :=
    Predicate.exists_comparison_of_evaluate_eq_error fails
  obtain ⟨field, declared, supported⟩ := Schema.supports_of_bind binds _ member
  rcases Predicate.evaluate_compare_eq_error comparisonFails with unknown | ⟨value, held, fails⟩
  · rw [target_of_declared (loaded.schema_eq ▸ declared)] at unknown
    cases unknown
  · obtain ⟨field', declared', admits⟩ := loaded.conforms name value held
    obtain rfl := Option.some.inj (declared.symm.trans declared')
    obtain ⟨operand, inside, apart, rfl⟩ := Condition.exists_operand_of_test_eq_error fails
    rw [admits.kind] at apart ⊢
    have otherClass : field.kind.comparisonClass ≠ operand.kind.comparisonClass :=
      fun same => apart (Kind.compares_of_supports supported same)
    have noSearch : condition.operator.isTextTest = false := by
      by_contra search
      rw [Bool.not_eq_false] at search
      apply otherClass
      rw [Kind.eq_string_of_supports supported search, Condition.kind_of_isTextTest search inside]
    have ordered : condition.operator.isOrdering = true → field.kind ≠ .bool := by
      intro ordering truth
      rw [truth] at supported
      rw [Kind.not_isOrdering_of_supports supported] at ordering
      cases ordering
    exact .operand member declared inside noSearch ordered otherClass

end Record

namespace Schema

variable {schema : Schema} {predicate bound : Predicate}

/-- Operands that fit leave nothing to go wrong. -/
theorem Fits.not_mismatch (fits : schema.Fits predicate) (error : EvaluationError) :
    ¬ schema.Mismatch predicate error := by
  rintro ⟨member, declared, inside, -, -, apart⟩
  exact apart (fits _ member _ declared _ inside)

theorem Fits.exists_evaluate_eq_ok (fits : schema.Fits bound)
    (binds : schema.bind predicate = .ok bound) {record : Record}
    (loaded : record.IsLoaded schema) : ∃ value, bound.evaluate record.target = .ok value := by
  cases result : bound.evaluate record.target with
  | ok value => exact ⟨value, rfl⟩
  | error error =>
      exact absurd (Record.mismatch_of_evaluate_eq_error binds loaded result)
        (fits.not_mismatch error)

/-- On the records of a schema, a bound predicate ends in no other error than that of an operand of
the wrong class.  If all operands fit, it has a value on every record, and filtering any list of
records selects those on which it is true. -/
theorem mismatch_or_ok_of_bind (binds : schema.bind predicate = .ok bound) :
    (∀ record : Record, record.IsLoaded schema → ∀ error,
      bound.evaluate record.target = .error error → schema.Mismatch bound error) ∧
    (schema.Fits bound →
      (∀ record : Record, record.IsLoaded schema →
        ∃ value, bound.evaluate record.target = .ok value) ∧
      ∀ records : List Record, (∀ record ∈ records, record.IsLoaded schema) →
        bound.filter Record.target records =
          .ok (records.filter fun record => bound.evaluate record.target = .ok true)) := by
  refine ⟨fun record loaded error fails => Record.mismatch_of_evaluate_eq_error binds loaded fails,
    fun fits => ⟨fun record loaded => fits.exists_evaluate_eq_ok binds loaded, ?_⟩⟩
  intro records loaded
  apply Predicate.filter_eq_ok
  intro record member
  obtain ⟨value, result⟩ := fits.exists_evaluate_eq_ok binds (loaded record member)
  rw [result]
  cases value <;> rfl

/-- A query for a range of ratings or a status, whose operands fit if that of the status does. -/
def rangeQuery (status : Value) : Predicate :=
  .group .or
    [.compare "rating" (.between (.int 4) (.double ⟨0x4014000000000000⟩)),
      .compare "status" (.relates .eq status)]

/-- What a mapping of a rating alone is loaded as. -/
def ratedPost : Record := ⟨postSchema, "rated", [("rating", .int 2)]⟩

theorem mismatch_or_ok_of_bind_rangeQuery :
    postSchema.bind (statusQuery (.string "draft")) = .ok (statusQuery (.enum "draft")) ∧
      postSchema.Mismatch (statusQuery (.enum "draft"))
        (.unsupportedComparison .int .string (.relates .eq)) ∧
      postSchema.bind (rangeQuery (.string "draft")) = .ok (rangeQuery (.enum "draft")) ∧
      postSchema.Fits (rangeQuery (.enum "draft")) ∧
      (rangeQuery (.enum "draft")).filter Record.target [ratedPost, draftPost] =
        .ok [draftPost] := by
  have draft : draftPost.IsLoaded postSchema :=
    ⟨"post", [(.string "status", .string "draft"), (.string "rating", .int 3)], by rfl⟩
  have rated : ratedPost.IsLoaded postSchema := ⟨"rated", [(.string "rating", .int 2)], by rfl⟩
  have mixed : postSchema.bind (statusQuery (.string "draft")) =
      .ok (statusQuery (.enum "draft")) := by rfl
  have fitting : postSchema.bind (rangeQuery (.string "draft")) =
      .ok (rangeQuery (.enum "draft")) := by rfl
  have fits : postSchema.Fits (rangeQuery (.enum "draft")) := by decide
  have loaded : ∀ record ∈ [ratedPost, draftPost], record.IsLoaded postSchema := by
    simp [rated, draft]
  exact ⟨mixed, (mismatch_or_ok_of_bind mixed).1 draftPost draft _ (by rfl), fitting, fits,
    ((mismatch_or_ok_of_bind fitting).2 fits).2 _ loaded⟩

end Schema
end RecordQuery
