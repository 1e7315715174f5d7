import RecordQuery.Proofs.Predicate.Operators
import RecordQuery.Proofs.Schema.Soundness

/-!
# What binding refuses

Binding refuses an operator for the declared kind of the field, and evaluation refuses it for the
kinds of a value and an operand.  The two tables say the same: an operator is refused by binding
exactly if it has no answer on any value of the kind, whatever it is compared with.  A text that is
no case of an enumeration is refused although it can be compared, but no record holds what it names.
-/

namespace RecordQuery

/-! ## The two tables -/

namespace Kind

variable {kind other : Kind} {operator : Operator}

/-- A kind supports the operators that compare its values with one another. -/
theorem supports_iff_compares : kind.supports operator = true ↔ operator.Compares kind kind := by
  refine ⟨fun supported => compares_of_supports supported rfl, fun compares => ?_⟩
  have noSearch : kind ≠ .string → operator.isTextTest = false := fun other =>
    Bool.eq_false_iff.mpr fun search => other (compares.searched search)
  have noOrder : kind = .bool → operator.isOrdering = false := fun truth =>
    Bool.eq_false_iff.mpr fun ordering => compares.ordered ordering truth
  cases kind with
  | bool => simp [supports, noOrder rfl, noSearch (by decide)]
  | string => rfl
  | _ => simp [supports, noSearch (by decide)]

/-- An operator that a kind does not support compares its values with nothing. -/
theorem not_compares_of_not_supports (unsupported : ¬ kind.supports operator = true) :
    ¬ operator.Compares kind other := by
  intro compares
  exact unsupported (supports_iff_compares.mpr ⟨rfl, compares.ordered, compares.searched⟩)

/-- There is a value of every kind. -/
theorem exists_value (kind : Kind) : ∃ value : Value, value.kind = kind := by
  cases kind with
  | bool => exact ⟨.bool true, rfl⟩
  | int => exact ⟨.int 0, rfl⟩
  | double => exact ⟨.double ⟨0⟩, rfl⟩
  | string => exact ⟨.string "", rfl⟩
  | date => exact ⟨.date (.mk 0 1 1), rfl⟩
  | dateTime => exact ⟨.dateTime ⟨.mk 0 1 1, .mk 0 0 0 0⟩, rfl⟩
  | time => exact ⟨.time (.mk 0 0 0 0), rfl⟩
  | enum => exact ⟨.enum "", rfl⟩

end Kind

/-! ## Conditions with an answer -/

namespace Condition

variable {condition : Condition} {value operand : Value}

theorem supported_eq_ok_iff {operator : Operator} {left right : Kind} {result : Option Bool}
    {answer : Bool} : supported operator left right result = .ok answer ↔ result = some answer := by
  cases result with
  | none => exact ⟨nofun, nofun⟩
  | some value => simp [supported]

theorem compares_of_test_eq_ok {answer : Bool} (answered : condition.test value = .ok answer) :
    ∀ operand ∈ condition.operands, condition.operator.Compares value.kind operand.kind := by
  have compares {relation : Relation} {operand : Value} {answer : Bool}
      (holds : relation.holds? value operand = some answer) :
      (Operator.relates relation).Compares value.kind operand.kind :=
    Relation.isSome_holds?_iff.mp (Option.isSome_of_eq_some holds)
  cases condition with
  | relates relation operand =>
      exact List.forall_mem_singleton.mpr (compares (supported_eq_ok_iff.mp answered))
  | finds test needle =>
      obtain ⟨text, string, -⟩ := Option.map_eq_some_iff.mp (supported_eq_ok_iff.mp answered)
      cases value with
      | string => exact List.forall_mem_singleton.mpr ⟨rfl, nofun, fun _ => rfl⟩
      | _ => cases string
  | between lower upper =>
      obtain ⟨fromLower, lowerAnswered, answered⟩ := bind_eq_ok_iff.mp answered
      obtain ⟨toUpper, upperAnswered, -⟩ := bind_eq_ok_iff.mp answered
      have fromBound := compares (supported_eq_ok_iff.mp lowerAnswered)
      have toBound := compares (supported_eq_ok_iff.mp upperAnswered)
      intro operand member
      rcases List.mem_cons.mp member with rfl | inTail
      · exact ⟨fromBound.sameClass, fun _ => fromBound.ordered rfl, nofun⟩
      · obtain rfl := List.mem_singleton.mp inTail
        exact ⟨toBound.sameClass, fun _ => toBound.ordered rfl, nofun⟩

/-- A condition has an answer on a value exactly if its operator compares the kind of the value with
the kinds of all operands. -/
theorem exists_test_eq_ok_iff : (∃ answer, condition.test value = .ok answer) ↔
    ∀ operand ∈ condition.operands, condition.operator.Compares value.kind operand.kind := by
  refine ⟨fun ⟨_, answered⟩ => compares_of_test_eq_ok answered, fun compares => ?_⟩
  cases result : condition.test value with
  | ok answer => exact ⟨answer, rfl⟩
  | error error =>
      obtain ⟨operand, member, apart, -⟩ := exists_operand_of_test_eq_error result
      exact absurd (compares operand member) apart

theorem operands_ne_nil (condition : Condition) : condition.operands ≠ [] := by
  cases condition <;> exact List.cons_ne_nil _ _

/-- The condition with the same operator that compares with the given value, where it compares with
a value at all. -/
def against (operand : Value) : Condition → Condition
  | .relates relation _ => .relates relation operand
  | .finds test needle => .finds test needle
  | .between _ _ => .between operand operand

@[simp]
theorem operator_against (operand : Value) (condition : Condition) :
    (condition.against operand).operator = condition.operator := by
  cases condition <;> rfl

/-- The operator of a condition has an answer on a value of a kind that supports it, if it compares
the value with the value itself. -/
theorem exists_against_self_eq_ok (supported : value.kind.supports condition.operator = true) :
    ∃ answer, (condition.against value).test value = .ok answer := by
  have compares := Kind.supports_iff_compares.mp supported
  rw [exists_test_eq_ok_iff, operator_against]
  intro operand member
  cases condition with
  | relates relation _ =>
      rw [List.mem_singleton.mp member]
      exact compares
  | finds test needle =>
      rw [List.mem_singleton.mp member]
      have string : value.kind = .string := compares.searched rfl
      rw [string] at compares ⊢
      exact compares
  | between _ _ =>
      have same : operand = value := by simpa [against, operands] using member
      rw [same]
      exact compares

/-- An operator that the kind of a value does not support is refused on the value with the kinds of
the value and of an operand. -/
theorem exists_test_eq_error (unsupported : ¬ value.kind.supports condition.operator = true) :
    ∃ operand ∈ condition.operands, condition.test value =
      .error (.unsupportedComparison value.kind operand.kind condition.operator) := by
  cases result : condition.test value with
  | ok answer =>
      obtain ⟨operand, member⟩ := List.exists_mem_of_ne_nil _ (operands_ne_nil condition)
      exact absurd (compares_of_test_eq_ok result operand member)
        (Kind.not_compares_of_not_supports unsupported)
  | error error =>
      obtain ⟨operand, member, -, rfl⟩ := exists_operand_of_test_eq_error result
      exact ⟨operand, member, rfl⟩

end Condition

/-! ## What binding refuses -/

namespace Field

variable {field : Field} {condition : Condition} {error : SchemaError}

theorem bindCase_eq_error_iff {operand : Value} : field.bindCase operand = .error error ↔
    ∃ text, operand.caseText? = some text ∧ text ∉ field.cases ∧
      error = .unknownCase field.name text := by
  rw [bindCase]
  cases operand.caseText? with
  | none => simp
  | some text =>
      simp only [caseOf]
      split
      · rename_i listed
        simp [listed]
      · rename_i unlisted
        simp [unlisted, eq_comm]

/-- A condition on a field is refused for its operator, or for a text that is no case. -/
theorem bindCondition_eq_error_iff : field.bindCondition condition = .error error ↔
    (¬ field.kind.supports condition.operator = true ∧
      error = .unsupportedOperator field.name field.kind condition.operator) ∨
    field.kind = .enum ∧ ∃ relation operand text, condition = .relates relation operand ∧
      relation.isOrdering = false ∧ operand.caseText? = some text ∧ text ∉ field.cases ∧
        error = .unknownCase field.name text := by
  by_cases equality : field.kind = .enum ∧
      ∃ relation operand, condition = .relates relation operand ∧ relation.isOrdering = false
  · obtain ⟨enumeration, relation, operand, rfl, equality⟩ := equality
    have supported : field.kind.supports (.relates relation) = true := by
      rw [enumeration]
      rfl
    rw [bindCondition_of_equality enumeration equality, map_eq_error_iff, bindCase_eq_error_iff]
    constructor
    · rintro ⟨text, refused⟩
      exact .inr ⟨enumeration, relation, operand, text, rfl, equality, refused⟩
    · rintro (⟨unsupported, -⟩ | ⟨-, _, _, text, same, -, refused⟩)
      · exact absurd supported unsupported
      · cases same
        exact ⟨text, refused⟩
  · have other : field.kind = .enum → ∀ relation operand,
        condition = .relates relation operand → relation.isOrdering = true := by
      intro enumeration relation operand same
      by_contra unordered
      rw [Bool.not_eq_true] at unordered
      exact equality ⟨enumeration, relation, operand, same, unordered⟩
    have noCase : ¬ (field.kind = .enum ∧ ∃ relation operand text,
        condition = .relates relation operand ∧ relation.isOrdering = false ∧
          operand.caseText? = some text ∧ text ∉ field.cases ∧
            error = .unknownCase field.name text) := by
      rintro ⟨enumeration, relation, operand, -, same, unordered, -⟩
      exact equality ⟨enumeration, relation, operand, same, unordered⟩
    rw [bindCondition_of_unchanged other, or_iff_left noCase]
    split
    · rename_i supported
      simp [supported]
    · rename_i unsupported
      simp [unsupported, eq_comm]

/-- What a field may hold is not equal to a text that is no case of the field. -/
theorem Admits.equal?_of_unknown {value operand : Value} (admits : field.Admits value)
    (enumeration : field.kind = .enum) {text : String} (named : operand.caseText? = some text)
    (unknown : text ∉ field.cases) : value.equal? operand = some false := by
  obtain ⟨case, listed, rfl⟩ := admits.exists_case enumeration
  have different : case ≠ text := fun same => unknown (same ▸ listed)
  rw [Value.equal?_enum case named, beq_eq_false_iff_ne.mpr different]

end Field

namespace Schema

variable {schema : Schema} {name : String} {field : Field}

theorem bind_compare_eq_error_iff (declared : schema.field? name = some field)
    {condition : Condition} {error : SchemaError} :
    schema.bind (.compare name condition) = .error error ↔
      field.bindCondition condition = .error error := by
  rw [bind, bindComparison, declared]
  exact map_eq_error_iff

/-- A comparison of a declared field is refused for its operator exactly if the operator has no
answer on any value of the declared kind, whatever its operands.  It is refused for an unknown case
only if it is an equality, and then no value that a record of the schema holds is equal to it. -/
theorem bind_refuses_useless (declared : schema.field? name = some field) (condition : Condition) :
    ((∃ known kind operator,
        schema.bind (.compare name condition) = .error (.unsupportedOperator known kind operator)) ↔
      ∀ (target : Target) (value : Value), target name = .ok (some value) →
        value.kind = field.kind → ∀ other : Condition, other.operator = condition.operator →
          ∃ left right operator, (Predicate.compare name other).evaluate target =
            .error (.unsupportedComparison left right operator)) ∧
    ∀ known case,
      schema.bind (.compare name condition) = .error (.unknownCase known case) →
        ∃ relation operand, condition = .relates relation operand ∧
          (relation = .eq ∨ relation = .ne) ∧
          ∀ record : Record, record.IsLoaded schema →
            ∀ value, record.target name = .ok (some value) →
              (Predicate.compare name (.relates .eq operand)).evaluate record.target = .ok false ∧
              (Predicate.compare name (.relates .ne operand)).evaluate record.target = .ok true := by
  simp only [bind_compare_eq_error_iff declared, Field.bindCondition_eq_error_iff]
  constructor
  case left =>
    constructor
    · rintro ⟨known, kind, operator, ⟨unsupported, -⟩ | ⟨-, _, _, _, -, -, -, -, other⟩⟩
      · intro target value held kinds other sameOperator
        rw [← kinds, ← sameOperator] at unsupported
        obtain ⟨operand, -, fails⟩ := Condition.exists_test_eq_error unsupported
        exact ⟨_, _, _, (Predicate.evaluate_compare_of_value held other).trans fails⟩
      · cases other
    · intro fails
      refine ⟨_, _, _, .inl ⟨fun supported => ?_, rfl⟩⟩
      obtain ⟨value, kind⟩ := field.kind.exists_value
      have held : Target.ofList [(name, some value)] name = .ok (some value) := by
        simp [Target.ofList]
      rw [← kind] at supported
      obtain ⟨answer, answered⟩ := Condition.exists_against_self_eq_ok supported
      obtain ⟨left, right, operator, refused⟩ :=
        fails _ value held kind (condition.against value) (Condition.operator_against _ _)
      rw [Predicate.evaluate_compare_of_value held, answered] at refused
      cases refused
  case right =>
    rintro known case (⟨-, other⟩ | ⟨enumeration, relation, operand, text, rfl, equality, named,
      unknown, -⟩)
    · cases other
    · refine ⟨relation, operand, rfl, by cases relation <;> simp_all [Relation.isOrdering],
        fun record loaded value held => ?_⟩
      obtain ⟨field', declared', admits⟩ := loaded.conforms name value held
      obtain rfl := Option.some.inj (declared.symm.trans declared')
      have different := admits.equal?_of_unknown enumeration named unknown
      rw [Predicate.evaluate_compare_of_value held, Predicate.evaluate_compare_of_value held]
      simp only [Condition.test, Relation.holds?, different, Option.map_some, Condition.supported,
        Bool.not_false, and_self]

theorem bind_refuses_useless_lostStatus :
    postSchema.field? "rating" = some ⟨"rating", .int, []⟩ ∧
      postSchema.bind (.compare "rating" (.finds .notContains "5")) =
        .error (.unsupportedOperator "rating" .int (.finds .notContains)) ∧
      (∃ left right operator, (Predicate.compare "rating" (.finds .notContains "")).evaluate
        draftPost.target = .error (.unsupportedComparison left right operator)) ∧
      postSchema.field? "status" = some ⟨"status", .enum, ["draft", "published"]⟩ ∧
      postSchema.bind (.compare "status" (.relates .ne (.string "lost"))) =
        .error (.unknownCase "status" "lost") ∧
      (Predicate.compare "status" (.relates .ne (.string "lost"))).evaluate draftPost.target =
        .ok true := by
  have rating : postSchema.field? "rating" = some ⟨"rating", .int, []⟩ := by rfl
  have status : postSchema.field? "status" = some ⟨"status", .enum, ["draft", "published"]⟩ := by rfl
  have search : postSchema.bind (.compare "rating" (.finds .notContains "5")) =
      .error (.unsupportedOperator "rating" .int (.finds .notContains)) := by rfl
  have lost : postSchema.bind (.compare "status" (.relates .ne (.string "lost"))) =
      .error (.unknownCase "status" "lost") := by rfl
  have loaded : draftPost.IsLoaded postSchema :=
    ⟨"post", [(.string "status", .string "draft"), (.string "rating", .int 3)], by rfl⟩
  refine ⟨rating, search, ?useless, status, lost, ?other⟩
  case useless =>
    exact (bind_refuses_useless rating _).1.mp ⟨_, _, _, search⟩ draftPost.target (.int 3) rfl rfl
      (.finds .notContains "") rfl
  case other =>
    obtain ⟨relation, operand, same, -, answers⟩ := (bind_refuses_useless status _).2 _ _ lost
    cases same
    exact (answers draftPost loaded (.enum "draft") rfl).2

end Schema
end RecordQuery
