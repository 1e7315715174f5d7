import RecordQuery.Proofs.Value.Order

/-!
# The operators agree with one another

On a field that holds nothing every operator says no.  On a field that holds a value the operators
say what one comparison of the value with an operand says, and so their answers fit together: the
orderings refuse the same operands, at most one of less, equal and greater is true, and a range is
the lower ordering and the upper one, both asked in that order.
-/

namespace RecordQuery

/-- The value is a NaN. -/
def Value.isNaN : Value → Bool
  | .double number => number.isNaN
  | _ => false

/-- The error as it is reported for another operator. -/
def EvaluationError.under (operator : Operator) : EvaluationError → EvaluationError
  | .fieldNotFound field => .fieldNotFound field
  | .unsupportedComparison left right _ => .unsupportedComparison left right operator

/-! ## The order of two values -/

/-- Doubles that are equal in order stand in the same order to any double. -/
theorem Double.compare?_congr {x y : Double} (same : x.compare? y = some .eq) (z : Double) :
    x.compare? z = y.compare? z := by
  cases noNumber : x.isNaN || y.isNaN with
  | true =>
      rw [compare?, if_pos noNumber] at same
      cases same
  | false =>
      obtain ⟨first, second⟩ := Bool.or_eq_false_iff.mp noNumber
      rw [compare?, if_neg (Bool.eq_false_iff.mp noNumber)] at same
      have keys : x.key = y.key := Std.compare_eq_iff_eq.mp (Option.some.inj same)
      rw [compare?, compare?, first, second, keys]

namespace Value

variable {a b c : Value}

theorem isNaN_of_number? {x : Double} (number : a.number? = some x) : a.isNaN = x.isNaN := by
  rcases number?_eq_some_iff.mp number with ⟨n, rfl, rfl⟩ | rfl
  · exact (Double.isNaN_ofInt _).symm
  · rfl

theorem isNaN_of_caseText? {text : String} (named : a.caseText? = some text) : a.isNaN = false := by
  rcases caseText?_eq_some_iff.mp named with rfl | rfl <;> rfl

/-- Values of one class stand in no order exactly if one of them is a NaN. -/
theorem Compared.isNone_eq {order : Option Ordering} (compared : Compared a b order) :
    order.isNone = (a.isNaN || b.isNaN) := by
  cases compared with
  | int | date | dateTime | time => rfl
  | text first second =>
      rw [isNaN_of_caseText? first, isNaN_of_caseText? second]
      rfl
  | number first second apart same =>
      rw [isNaN_of_number? first, isNaN_of_number? second, ← same, Double.compare?]
      split
      · rename_i noNumber
        rw [noNumber]
        rfl
      · rename_i numbers
        rw [Bool.eq_false_of_not_eq_true numbers]
        rfl

/-- Values of one kind that are equal in order stand in the same order to any value of the kind. -/
theorem Compared.order?_congr (same : Compared a b (some .eq)) (kinds : a.kind = b.kind)
    (kind : c.kind = a.kind) : a.order? c = b.order? c := by
  cases same with
  | int equal => rw [Int64.toInt_inj.mp (Std.compare_eq_iff_eq.mp equal)]
  | date equal => rw [Date.index_injective (Std.compare_eq_iff_eq.mp equal)]
  | dateTime equal => rw [Instant.index_injective (Std.compare_eq_iff_eq.mp equal)]
  | time equal => rw [TimeOfDay.index_injective (Std.compare_eq_iff_eq.mp equal)]
  | text first second equal =>
      obtain rfl := Std.compare_eq_iff_eq.mp equal
      rcases caseText?_eq_some_iff.mp first with rfl | rfl <;>
        rcases caseText?_eq_some_iff.mp second with rfl | rfl
      · rfl
      · cases kinds
      · cases kinds
      · rfl
  | number first second apart equal =>
      rcases number?_eq_some_iff.mp first with ⟨m, rfl, rfl⟩ | rfl <;>
        rcases number?_eq_some_iff.mp second with ⟨n, rfl, rfl⟩ | rfl
      · exact absurd rfl (apart m n rfl)
      · cases kinds
      · cases kinds
      · cases c with
        | double z => exact congrArg some (Double.compare?_congr equal z)
        | _ => cases kind

/-- What is not less than the greater of two values of its kind is greater than the other. -/
theorem Compared.gt_of_gt (greater : Compared a b (some .gt)) (kinds : a.kind = c.kind)
    (kind : b.kind = c.kind) {order : Ordering} (reaches : Compared c a (some order))
    (above : order ≠ .lt) : Compared c b (some .gt) := by
  have less : Compared b a (some .lt) := greater.swap
  cases order with
  | lt => exact absurd rfl above
  | eq =>
      rw [← order?_eq_some_iff, reaches.order?_congr kinds.symm kind]
      exact greater.order?_eq
  | gt => exact (less.trans reaches.swap).swap

end Value

/-! ## One condition and another -/

namespace Condition

/-- The answers of the operators on a field that holds the value fit together. -/
structure Coherent (value : Value) (answer : Condition → Except EvaluationError Bool) : Prop where
  /-- `ne` says the opposite of `eq`, and reports the same errors under its own name. -/
  negation : ∀ operand, answer (.relates .ne operand) =
    ((answer (.relates .eq operand)).mapError (.under (.relates .ne))).map not
  /-- Either all orderings refuse the operand, or all of them and `eq` have answers that come from
  three Booleans, of which one is true, and none where a NaN is compared. -/
  orderings : ∀ operand,
    (∀ relation : Relation, relation.isOrdering = true → answer (.relates relation operand) =
      .error (.unsupportedComparison value.kind operand.kind (.relates relation))) ∨
    ∃ less equal greater : Bool,
      answer (.relates .lt operand) = .ok less ∧ answer (.relates .eq operand) = .ok equal ∧
      answer (.relates .gt operand) = .ok greater ∧
      answer (.relates .le operand) = .ok (less || equal) ∧
      answer (.relates .ge operand) = .ok (greater || equal) ∧
      [less, equal, greater].count true = if value.isNaN || operand.isNaN then 0 else 1
  /-- A range has an answer exactly if both of its orderings have one, and is their conjunction. -/
  range : ∀ lower upper inside, answer (.between lower upper) = .ok inside ↔
    ∃ fromLower toUpper, answer (.relates .ge lower) = .ok fromLower ∧
      answer (.relates .le upper) = .ok toUpper ∧ inside = (fromLower && toUpper)
  /-- A range is refused for its lower bound if that is not comparable, and for its upper bound if
  only that is not, whatever the lower one says. -/
  refusedRange : ∀ lower upper error, answer (.between lower upper) = .error error ↔
    answer (.relates .ge lower) =
        .error (.unsupportedComparison value.kind lower.kind (.relates .ge)) ∧
      error = .unsupportedComparison value.kind lower.kind .between ∨
    (∃ fromLower, answer (.relates .ge lower) = .ok fromLower) ∧
      answer (.relates .le upper) =
        .error (.unsupportedComparison value.kind upper.kind (.relates .le)) ∧
      error = .unsupportedComparison value.kind upper.kind .between
  /-- A range between bounds of the value's own kind that stand the wrong way round is empty. -/
  reversedRange : ∀ lower upper : Value, lower.kind = value.kind → upper.kind = value.kind →
    lower.order? upper = some (some .gt) → answer (.between lower upper) = .ok false

variable {value : Value}

theorem test_ne (operand : Value) : (relates .ne operand).test value =
    (((relates .eq operand).test value).mapError (.under (.relates .ne))).map not := by
  rw [test, test, Relation.holds?, Relation.holds?]
  cases value.equal? operand <;> rfl

theorem test_orderings (operand : Value) :
    (∀ relation : Relation, relation.isOrdering = true → (relates relation operand).test value =
      .error (.unsupportedComparison value.kind operand.kind (.relates relation))) ∨
    ∃ less equal greater : Bool,
      (relates .lt operand).test value = .ok less ∧ (relates .eq operand).test value = .ok equal ∧
      (relates .gt operand).test value = .ok greater ∧
      (relates .le operand).test value = .ok (less || equal) ∧
      (relates .ge operand).test value = .ok (greater || equal) ∧
      [less, equal, greater].count true = if value.isNaN || operand.isNaN then 0 else 1 := by
  cases ordered : value.order? operand with
  | none =>
      left
      intro relation ordering
      rw [test, (Value.holds?_eq_none_iff ordering).mpr ordered]
      rfl
  | some order =>
      right
      have compared := Value.compared_of_order? ordered
      refine ⟨order == some .lt, order == some .eq, order == some .gt, ?_, ?_, ?_, ?_, ?_, ?_⟩
      · simp only [test, Relation.holds?, ordered, Option.map_some, supported]
      · simp only [test, Relation.holds?, compared.equal?_eq, supported]
      · simp only [test, Relation.holds?, ordered, Option.map_some, supported]
      · simp only [test, Relation.holds?, ordered, Option.map_some, supported]
      · simp only [test, Relation.holds?, ordered, Option.map_some, supported]
      · rw [← compared.isNone_eq]
        rcases order with _ | _ | _ | _ <;> rfl

theorem test_between_eq_ok_iff {lower upper : Value} {inside : Bool} :
    (between lower upper).test value = .ok inside ↔
      ∃ fromLower toUpper, (relates .ge lower).test value = .ok fromLower ∧
        (relates .le upper).test value = .ok toUpper ∧ inside = (fromLower && toUpper) := by
  simp only [test]
  cases Relation.ge.holds? value lower with
  | none =>
      constructor
      · intro answered
        cases answered
      · rintro ⟨_, _, refused, _⟩
        cases refused
  | some fromLower =>
      cases Relation.le.holds? value upper with
      | none =>
          constructor
          · intro answered
            cases answered
          · rintro ⟨_, _, _, refused, _⟩
            cases refused
      | some toUpper =>
          constructor
          · intro answered
            exact ⟨fromLower, toUpper, rfl, rfl, (Except.ok.inj answered).symm⟩
          · rintro ⟨_, _, ⟨⟩, ⟨⟩, rfl⟩
            rfl

theorem test_between_eq_error_iff {lower upper : Value} {error : EvaluationError} :
    (between lower upper).test value = .error error ↔
      (relates .ge lower).test value =
          .error (.unsupportedComparison value.kind lower.kind (.relates .ge)) ∧
        error = .unsupportedComparison value.kind lower.kind .between ∨
      (∃ fromLower, (relates .ge lower).test value = .ok fromLower) ∧
        (relates .le upper).test value =
          .error (.unsupportedComparison value.kind upper.kind (.relates .le)) ∧
        error = .unsupportedComparison value.kind upper.kind .between := by
  simp only [test]
  cases Relation.ge.holds? value lower with
  | none => simp [supported, bind, Except.bind, operator, eq_comm]
  | some fromLower =>
      cases Relation.le.holds? value upper <;>
        simp [supported, bind, Except.bind, operator, pure, Except.pure, eq_comm]

/-- No value lies between two bounds of its own kind that stand the wrong way round. -/
theorem test_between_of_gt {lower upper : Value} (lowerKind : lower.kind = value.kind)
    (upperKind : upper.kind = value.kind) (reversed : lower.order? upper = some (some .gt)) :
    (between lower upper).test value = .ok false := by
  have greater := Value.compared_of_order? reversed
  have ordered : value.kind ≠ .bool := by
    rw [← lowerKind]
    exact (Value.isSome_order?_iff.mp (Option.isSome_of_eq_some reversed)).2
  have comparable {bound : Value} (kind : bound.kind = value.kind) :
      ∃ order, value.order? bound = some order :=
    Option.isSome_iff_exists.mp (Value.isSome_order?_iff.mpr ⟨by rw [kind], ordered⟩)
  obtain ⟨fromLower, first⟩ := comparable lowerKind
  obtain ⟨toUpper, second⟩ := comparable upperKind
  refine test_between_eq_ok_iff.mpr ⟨fromLower == some .gt || fromLower == some .eq,
    toUpper == some .lt || toUpper == some .eq, ?_, ?_, ?_⟩
  · simp only [test, Relation.holds?, first, Option.map_some, supported]
  · simp only [test, Relation.holds?, second, Option.map_some, supported]
  · rcases fromLower with _ | order
    · rfl
    · by_cases below : order = .lt
      · rw [below]
        rfl
      · have above : Value.Compared value upper (some .gt) :=
          greater.gt_of_gt lowerKind upperKind (Value.compared_of_order? first) below
        rw [above.order?_eq] at second
        rw [← Option.some.inj second]
        exact (Bool.and_false _).symm

/-- With bounds of another kind it can: both ints are the same double. -/
example : (between (.int 9007199254740993) (.int 9007199254740992)).test
    (.double ⟨0x4340000000000000⟩) = .ok true := by decide

/-- The answers of the operators on a value fit together. -/
theorem coherent_test (value : Value) : Coherent value fun condition => condition.test value where
  negation := test_ne
  orderings := test_orderings
  range _ _ _ := test_between_eq_ok_iff
  refusedRange _ _ _ := test_between_eq_error_iff
  reversedRange _ _ := test_between_of_gt

end Condition

namespace Predicate

variable {target : Target} {field : String}

theorem evaluate_compare_of_value {value : Value} (held : target field = .ok (some value))
    (condition : Condition) : (compare field condition).evaluate target = condition.test value := by
  rw [evaluate, held]
  rfl

/-- The operators agree with one another on every target.  They all fail alike on a field that the
target does not know, and say no of one that holds nothing.  On a field that holds a value, whatever
its kind, their answers fit together. -/
theorem coherent_evaluate (target : Target) (field : String) :
    (∀ error, target field = .error error → ∀ condition : Condition,
      (compare field condition).evaluate target = .error error) ∧
    (target field = .ok none → ∀ condition : Condition,
      (compare field condition).evaluate target = .ok false) ∧
    ∀ value, target field = .ok (some value) →
      Condition.Coherent value fun condition => (compare field condition).evaluate target := by
  refine ⟨?unknown, ?unset, ?set⟩
  case unknown =>
    intro error refused condition
    rw [evaluate, refused]
    rfl
  case unset =>
    intro unset condition
    rw [evaluate, unset]
    rfl
  case set =>
    intro value held
    have answers : (fun condition => (compare field condition).evaluate target) =
        fun condition => condition.test value := funext (evaluate_compare_of_value held)
    rw [answers]
    exact Condition.coherent_test value

/-- A target that holds a rating of 4.5 and no title. -/
def ratedTarget : Target :=
  Target.ofList [("rating", some (.double ⟨0x4012000000000000⟩)), ("title", none)]

theorem coherent_evaluate_ratedTarget :
    (ratedTarget "author" = .error (.fieldNotFound "author") ∧
      (compare "author" (.relates .ne (.int 4))).evaluate ratedTarget =
        .error (.fieldNotFound "author")) ∧
    (ratedTarget "title" = .ok none ∧
      (compare "title" (.finds .notContains "x")).evaluate ratedTarget = .ok false) ∧
    ratedTarget "rating" = .ok (some (.double ⟨0x4012000000000000⟩)) ∧
      (compare "rating" (.between (.double ⟨0x4014000000000000⟩) (.double ⟨0x4010000000000000⟩))
        ).evaluate ratedTarget = .ok false ∧
      (compare "rating" (.between (.int 5) (.string "6"))).evaluate ratedTarget =
        .error (.unsupportedComparison .double .string .between) := by
  have held : ratedTarget "rating" = .ok (some (.double ⟨0x4012000000000000⟩)) := rfl
  have coherent := (coherent_evaluate ratedTarget "rating").2.2 _ held
  refine ⟨⟨rfl, (coherent_evaluate ratedTarget "author").1 _ rfl _⟩,
    ⟨rfl, (coherent_evaluate ratedTarget "title").2.1 rfl _⟩, held, ?reversed, ?refused⟩
  case reversed => exact coherent.reversedRange _ _ rfl rfl (by decide)
  case refused =>
    exact (coherent.refusedRange _ _ _).mpr (.inr ⟨⟨false, by decide⟩, by decide, rfl⟩)

end Predicate
end RecordQuery
