import RecordQuery.Proofs.Schema.Soundness

/-!
# The outcome of binding

Binding a predicate comes down to binding its comparisons one by one: it succeeds if each of them is
bound, and otherwise gives the error of the first one, from left to right, that is not.  A predicate
that is bound has kept its shape, its fields and its operators.  Where it compares an enumeration
field with a text for equality, the text has become the case of that name, and since that is a case
of the field, binding once more changes nothing.
-/

namespace RecordQuery

/-! ## What becomes of a predicate -/

namespace Predicate

mutual

/-- The predicate with the condition of every comparison changed, each under the name of its
field. -/
def mapConditions (change : String → Condition → Condition) : Predicate → Predicate
  | .compare name condition => .compare name (change name condition)
  | .group connective children => .group connective (mapAllConditions change children)
  | .negation child => .negation (child.mapConditions change)
  | .constant value => .constant value

/-- The predicates of a list with their conditions changed. -/
def mapAllConditions (change : String → Condition → Condition) : List Predicate → List Predicate
  | [] => []
  | child :: children => child.mapConditions change :: mapAllConditions change children

end

theorem mapAllConditions_eq_map (change : String → Condition → Condition)
    (children : List Predicate) :
    mapAllConditions change children = children.map (mapConditions change) := by
  induction children with
  | nil => rfl
  | cons child children ih => rw [mapAllConditions, ih, List.map_cons]

end Predicate

namespace Field

/-- The condition with a text that an enumeration field is compared with for equality made the case
of that name. -/
def withCase (field : Field) : Condition → Condition
  | .relates relation (.string text) =>
    if field.kind = .enum ∧ relation.isOrdering = false then .relates relation (.enum text)
    else .relates relation (.string text)
  | condition => condition

variable {field : Field} {condition bound : Condition}

theorem withCase_of_text (enumeration : field.kind = .enum) {relation : Relation}
    (equality : relation.isOrdering = false) {operand : Value} {text : String}
    (named : operand.caseText? = some text) :
    field.withCase (.relates relation operand) = .relates relation (.enum text) := by
  cases operand with
  | string =>
      obtain rfl := Option.some.inj named
      exact if_pos ⟨enumeration, equality⟩
  | enum =>
      obtain rfl := Option.some.inj named
      rfl
  | _ => cases named

theorem withCase_of_noText {relation : Relation} {operand : Value}
    (noText : operand.caseText? = none) :
    field.withCase (.relates relation operand) = .relates relation operand := by
  cases operand with
  | string => cases noText
  | _ => rfl

theorem withCase_of_unchanged
    (other : field.kind = .enum → ∀ relation operand, condition = .relates relation operand →
      relation.isOrdering = true) : field.withCase condition = condition := by
  unfold withCase
  split
  · rename_i relation text
    refine if_neg fun ⟨enumeration, equality⟩ => ?_
    rw [other enumeration relation _ rfl] at equality
    cases equality
  · rfl

theorem Binds.eq_withCase (binds : field.Binds condition bound) :
    bound = field.withCase condition := by
  cases binds with
  | case enumeration equality binds =>
      rcases bindCase_eq_ok_iff.mp binds with ⟨text, -, named, rfl⟩ | ⟨noText, rfl⟩
      · exact (withCase_of_text enumeration equality named).symm
      · exact (withCase_of_noText noText).symm
  | unchanged other => exact (withCase_of_unchanged other).symm

/-- What binding makes of a condition is bound to itself. -/
theorem Binds.again (binds : field.Binds condition bound) : field.Binds bound bound := by
  cases binds with
  | case enumeration equality binds =>
      refine .case enumeration equality (bindCase_eq_ok_iff.mpr ?_)
      rcases bindCase_eq_ok_iff.mp binds with ⟨text, listed, -, rfl⟩ | ⟨noText, rfl⟩
      · exact .inl ⟨text, listed, rfl, rfl⟩
      · exact .inr ⟨noText, rfl⟩
  | unchanged other => exact .unchanged other

theorem bindCondition_again (binds : field.bindCondition condition = .ok bound) :
    field.bindCondition bound = .ok bound := by
  obtain ⟨supported, binds⟩ := bindCondition_eq_ok_iff.mp binds
  rw [← binds.operator_eq] at supported
  exact bindCondition_eq_ok_iff.mpr ⟨supported, binds.again⟩

end Field

namespace Schema

variable {schema : Schema} {predicate bound : Predicate}

/-- The condition on the field of the given name, with a text that has to be a case of it made that
case. -/
def withCase (schema : Schema) (name : String) (condition : Condition) : Condition :=
  match schema.field? name with
  | some field => field.withCase condition
  | none => condition

theorem eq_mapConditions_of_bind (binds : schema.bind predicate = .ok bound) :
    bound = predicate.mapConditions schema.withCase := by
  refine bind_induction (motive := fun predicate bound =>
    bound = predicate.mapConditions schema.withCase) ?compare ?group ?negation ?constant binds
  case compare =>
    intro name field condition bound declared binds
    rw [Predicate.mapConditions, withCase, declared]
    exact congrArg _ (Field.bindCondition_eq_ok_iff.mp binds).2.eq_withCase
  case group =>
    intro connective children bound same
    have mapped : bound = children.map (Predicate.mapConditions schema.withCase) := by
      rw [← List.forall₂_eq_eq_eq, List.forall₂_map_right_iff]
      exact same.flip
    rw [Predicate.mapConditions, Predicate.mapAllConditions_eq_map, mapped]
  case negation =>
    intro child bound same
    rw [Predicate.mapConditions, same]
  case constant =>
    intro value
    rfl

theorem bind_again (binds : schema.bind predicate = .ok bound) : schema.bind bound = .ok bound := by
  refine bind_induction (motive := fun _ bound => schema.bind bound = .ok bound)
    ?compare ?group ?negation ?constant binds
  case compare =>
    intro name field condition bound declared binds
    rw [bind, bindComparison, declared]
    exact map_eq_ok_iff.mpr ⟨bound, Field.bindCondition_again binds, rfl⟩
  case group =>
    intro connective children bound same
    have all : ∀ child ∈ bound, schema.bind child = .ok child := by
      intro child member
      obtain ⟨-, -, again⟩ := exists_mem_of_forall₂ same.flip member
      exact again
    rw [bind, bindAll_eq_ok_iff.mpr (List.forall₂_same.mpr all)]
    rfl
  case negation =>
    intro child bound same
    rw [bind, same]
    rfl
  case constant =>
    intro value
    rfl

/-! ## What is refused -/

/-- What binding makes of one comparison by itself. -/
def bindAlone (schema : Schema) (comparison : String × Condition) : Except SchemaError Predicate :=
  schema.bind (.compare comparison.1 comparison.2)

theorem bindAll_eq_error_iff {children : List Predicate}
    (same : ∀ child ∈ children, ∀ error, schema.bind child = .error error ↔
      RefusesFirst schema.bindAlone child.comparisons error) (error : SchemaError) :
    schema.bindAll children = .error error ↔
      RefusesFirst schema.bindAlone (Predicate.allComparisons children) error := by
  induction children with
  | nil => exact ⟨nofun, fun refuses => (not_refusesFirst_nil refuses).elim⟩
  | cons child children ih =>
      obtain ⟨sameChild, sameChildren⟩ := List.forall_mem_cons.mp same
      rw [bindAll, Predicate.allComparisons, refusesFirst_append, ← sameChild,
        ← exists_ok_iff_of_refusesFirst sameChild, ← ih sameChildren]
      exact bind_both_eq_error_iff

/-- Binding fails with the error of the first comparison that is not bound by itself. -/
theorem bind_eq_error_iff_refusesFirst (predicate : Predicate) (error : SchemaError) :
    schema.bind predicate = .error error ↔
      RefusesFirst schema.bindAlone predicate.comparisons error := by
  induction predicate generalizing error with
  | compare name condition =>
      rw [Predicate.comparisons, refusesFirst_singleton, bindAlone]
  | group connective children ih =>
      rw [bind, map_eq_error_iff]
      exact bindAll_eq_error_iff ih error
  | negation child ih =>
      rw [bind, map_eq_error_iff]
      exact ih error
  | constant value =>
      rw [bind, Predicate.comparisons]
      simp [not_refusesFirst_nil]

/-- Binding is decided comparison by comparison. -/
theorem bind_outcome (schema : Schema) (predicate : Predicate) :
    ((∃ bound, schema.bind predicate = .ok bound) ↔
      ∀ comparison ∈ predicate.comparisons, ∃ bound, schema.bindAlone comparison = .ok bound) ∧
    (∀ error, schema.bind predicate = .error error ↔
      RefusesFirst schema.bindAlone predicate.comparisons error) ∧
    ∀ bound, schema.bind predicate = .ok bound →
      bound = predicate.mapConditions schema.withCase ∧ schema.bind bound = .ok bound := by
  refine ⟨exists_ok_iff_of_refusesFirst (bind_eq_error_iff_refusesFirst predicate),
    bind_eq_error_iff_refusesFirst predicate, fun bound binds => ?_⟩
  exact ⟨eq_mapConditions_of_bind binds, bind_again binds⟩

/-- A query whose first part is bound; its second looks for a text in a number, and its third is of
a field that is not declared. -/
def unboundQuery : Predicate :=
  .group .or
    [statusQuery (.string "draft"), .negation (.compare "rating" (.finds .contains "5")),
      .compare "author" (.relates .eq (.int 1))]

theorem bind_outcome_statusQuery :
    postSchema.bind (statusQuery (.string "draft")) = .ok (statusQuery (.enum "draft")) ∧
      statusQuery (.enum "draft") =
        (statusQuery (.string "draft")).mapConditions postSchema.withCase ∧
      postSchema.bind (statusQuery (.enum "draft")) = .ok (statusQuery (.enum "draft")) ∧
      postSchema.bind unboundQuery =
        .error (.unsupportedOperator "rating" .int (.finds .contains)) := by
  have binds : postSchema.bind (statusQuery (.string "draft")) =
      .ok (statusQuery (.enum "draft")) := by rfl
  have refuses : RefusesFirst postSchema.bindAlone unboundQuery.comparisons
      (.unsupportedOperator "rating" .int (.finds .contains)) := by
    refine ⟨(statusQuery (.string "draft")).comparisons, ("rating", .finds .contains "5"),
      [("author", .relates .eq (.int 1))], rfl, ?_, rfl⟩
    exact (bind_outcome postSchema (statusQuery (.string "draft"))).1.mp ⟨_, binds⟩
  obtain ⟨-, errors, -⟩ := bind_outcome postSchema unboundQuery
  obtain ⟨-, -, outcome⟩ := bind_outcome postSchema (statusQuery (.string "draft"))
  obtain ⟨mapped, again⟩ := outcome _ binds
  exact ⟨binds, mapped, again, (errors _).mpr refuses⟩

end Schema
end RecordQuery
