import RecordQuery.Proofs.Double.Monotone
import RecordQuery.Proofs.Predicate.Failure

/-!
# The order of values

Values of different kinds stand in one order.  It is reversed when the values are swapped, and
where it says that they are equal, equality says so too.

Two ints are compared exactly, but as doubles with a double, and two ints that differ may be the
same double.  So equality is not transitive, but the order is: rounding keeps the order of ints, and
a step from or to a double is a step between different doubles.
-/

namespace RecordQuery

/-! ## Doubles -/

namespace Double

theorem compare?_swap (x y : Double) : x.compare? y = (y.compare? x).map Ordering.swap := by
  rw [compare?, compare?, Bool.or_comm y.isNaN]
  split
  · rfl
  · rw [Option.map_some, ← Std.OrientedOrd.eq_swap]

theorem equal_eq_compare? (x y : Double) : x.equal y = (x.compare? y == some .eq) := by
  cases first : x.isNaN <;> cases second : y.isNaN <;>
    simp [equal, compare?, first, second, Bool.beq_eq_decide_eq]

theorem compare?_eq_lt_iff {x y : Double} :
    x.compare? y = some .lt ↔ (x.isNaN = false ∧ y.isNaN = false) ∧ x.key < y.key := by
  rw [compare?, ← Bool.or_eq_false_iff]
  cases x.isNaN || y.isNaN <;> simp [Int.compare_eq_lt]

end Double

namespace Value

variable {a b c : Value}

/-! ## The table of comparisons -/

theorem caseText?_eq_some_iff {text : String} :
    a.caseText? = some text ↔ a = .string text ∨ a = .enum text := by
  cases a <;> simp [caseText?]

theorem number?_eq_some_iff {x : Double} :
    a.number? = some x ↔ (∃ n, a = .int n ∧ Double.ofInt n.toInt = x) ∨ a = .double x := by
  cases a <;> simp [number?]

/-- How two values of one class stand in order. -/
inductive Compared : Value → Value → Option Ordering → Prop where
  | int {m n : Int64} {order : Ordering} :
      compare m.toInt n.toInt = order → Compared (.int m) (.int n) (some order)
  | date {d e : Date} {order : Ordering} :
      compare d.index e.index = order → Compared (.date d) (.date e) (some order)
  | dateTime {i j : Instant} {order : Ordering} :
      compare i.index j.index = order → Compared (.dateTime i) (.dateTime j) (some order)
  | time {t u : TimeOfDay} {order : Ordering} :
      compare t.index u.index = order → Compared (.time t) (.time u) (some order)
  | text {a b : Value} {s t : String} {order : Ordering} :
      a.caseText? = some s → b.caseText? = some t → compare s t = order →
        Compared a b (some order)
  /-- Numbers that are not both ints. -/
  | number {a b : Value} {x y : Double} {order : Option Ordering} :
      a.number? = some x → b.number? = some y → (∀ m n, a = .int m → b ≠ .int n) →
        x.compare? y = order → Compared a b order

theorem compared_of_order? {order : Option Ordering} (ordered : a.order? b = some order) :
    Compared a b order := by
  cases a with
  | bool => cases b <;> cases ordered
  | int =>
      cases b with
      | int =>
          obtain rfl := Option.some.inj ordered
          exact .int rfl
      | double => exact .number rfl rfl (fun _ _ _ => nofun) (Option.some.inj ordered)
      | _ => cases ordered
  | double =>
      cases b with
      | int | double => exact .number rfl rfl nofun (Option.some.inj ordered)
      | _ => cases ordered
  | string | enum =>
      cases b with
      | string | enum =>
          obtain rfl := Option.some.inj ordered
          exact .text rfl rfl rfl
      | _ => cases ordered
  | date =>
      cases b with
      | date =>
          obtain rfl := Option.some.inj ordered
          exact .date rfl
      | _ => cases ordered
  | dateTime =>
      cases b with
      | dateTime =>
          obtain rfl := Option.some.inj ordered
          exact .dateTime rfl
      | _ => cases ordered
  | time =>
      cases b with
      | time =>
          obtain rfl := Option.some.inj ordered
          exact .time rfl
      | _ => cases ordered

theorem Compared.order?_eq {order : Option Ordering} (compared : Compared a b order) :
    a.order? b = some order := by
  cases compared with
  | int same | date same | dateTime same | time same => exact congrArg (some ∘ some) same
  | text first second same =>
      rcases caseText?_eq_some_iff.mp first with rfl | rfl <;>
        rcases caseText?_eq_some_iff.mp second with rfl | rfl <;>
          exact congrArg (some ∘ some) same
  | number first second apart same =>
      rcases number?_eq_some_iff.mp first with ⟨m, rfl, rfl⟩ | rfl <;>
        rcases number?_eq_some_iff.mp second with ⟨n, rfl, rfl⟩ | rfl
      · exact absurd rfl (apart m n rfl)
      all_goals exact congrArg some same

/-- The order of two values is an entry of the table. -/
theorem order?_eq_some_iff {order : Option Ordering} :
    a.order? b = some order ↔ Compared a b order :=
  ⟨compared_of_order?, Compared.order?_eq⟩

/-! ## Swapping -/

theorem Compared.swap {order : Option Ordering} (compared : Compared a b order) :
    Compared b a (order.map Ordering.swap) := by
  have swapped {α : Type} [Ord α] [Std.OrientedOrd α] {x y : α} {order : Ordering}
      (same : compare x y = order) : compare y x = order.swap := by
    rw [← same]
    exact Std.OrientedOrd.eq_swap
  cases compared with
  | int same => exact .int (swapped same)
  | date same => exact .date (swapped same)
  | dateTime same => exact .dateTime (swapped same)
  | time same => exact .time (swapped same)
  | text first second same => exact .text second first (swapped same)
  | number first second apart same =>
      refine .number second first (fun m n isInt other => apart n m other isInt) ?_
      rw [Double.compare?_swap, same]

/-- Swapping the values reverses their order. -/
theorem order?_swap (a b : Value) : a.order? b = (b.order? a).map (Option.map Ordering.swap) := by
  cases first : b.order? a with
  | some order => exact (compared_of_order? first).swap.order?_eq
  | none =>
      cases second : a.order? b with
      | none => rfl
      | some order =>
          rw [(compared_of_order? second).swap.order?_eq] at first
          cases first

theorem order?_self_ne_lt (a : Value) : a.order? a ≠ some (some .lt) := by
  intro less
  have swapped := order?_swap a a
  rw [less] at swapped
  cases swapped

/-! ## Equality -/

theorem equal?_of_caseText? {s t : String} (first : a.caseText? = some s)
    (second : b.caseText? = some t) : a.equal? b = some (s == t) := by
  rcases caseText?_eq_some_iff.mp first with rfl | rfl <;>
    rcases caseText?_eq_some_iff.mp second with rfl | rfl <;> rfl

theorem equal?_of_number? {x y : Double} (first : a.number? = some x) (second : b.number? = some y)
    (apart : ∀ m n, a = .int m → b ≠ .int n) : a.equal? b = some (x.equal y) := by
  rcases number?_eq_some_iff.mp first with ⟨m, rfl, rfl⟩ | rfl <;>
    rcases number?_eq_some_iff.mp second with ⟨n, rfl, rfl⟩ | rfl
  · exact absurd rfl (apart m n rfl)
  all_goals rfl

/-- Values that are told apart by a key are equal if their keys are. -/
theorem beq_eq_of_compare {α β : Type} [BEq α] [LawfulBEq α] [Ord β] [Std.LawfulEqOrd β]
    (key : α → β) (injective : ∀ x y, key x = key y → x = y) {x y : α} {order : Ordering}
    (same : compare (key x) (key y) = order) : (x == y) = (some order == some .eq) := by
  subst same
  rw [Bool.eq_iff_iff, beq_iff_eq, beq_iff_eq, Option.some.injEq, Std.compare_eq_iff_eq]
  exact ⟨congrArg key, injective x y⟩

/-- Values that stand in order are equal exactly if the order says so. -/
theorem Compared.equal?_eq {order : Option Ordering} (compared : Compared a b order) :
    a.equal? b = some (order == some .eq) := by
  cases compared with
  | int same =>
      exact congrArg some (beq_eq_of_compare Int64.toInt (fun _ _ => Int64.toInt_inj.mp) same)
  | date same =>
      exact congrArg some (beq_eq_of_compare Date.index (fun _ _ => Date.index_injective) same)
  | dateTime same =>
      exact congrArg some (beq_eq_of_compare Instant.index (fun _ _ => Instant.index_injective) same)
  | time same =>
      exact congrArg some
        (beq_eq_of_compare TimeOfDay.index (fun _ _ => TimeOfDay.index_injective) same)
  | text first second same =>
      rw [equal?_of_caseText? first second, beq_eq_of_compare id (fun _ _ => id) same]
  | number first second apart same =>
      rw [equal?_of_number? first second apart, Double.equal_eq_compare?, same]

/-! ## Transitivity -/

/-- Numbers that are less as doubles are less, also if both are ints. -/
theorem compared_of_key_lt {x z : Double} (first : a.number? = some x) (second : c.number? = some z)
    (numbers : x.isNaN = false ∧ z.isNaN = false) (less : x.key < z.key) :
    Compared a c (some .lt) := by
  by_cases ints : ∃ m n, a = .int m ∧ c = .int n
  · obtain ⟨m, n, rfl, rfl⟩ := ints
    obtain rfl := Option.some.inj first
    obtain rfl := Option.some.inj second
    refine .int (Int.compare_eq_lt.mpr (lt_of_not_ge fun reversed => ?_))
    exact (Double.key_ofInt_mono reversed).not_gt less
  · exact .number first second (fun m n isInt other => ints ⟨m, n, isInt, other⟩)
      (Double.compare?_eq_lt_iff.mpr ⟨numbers, less⟩)

/-- Ints in order are doubles in order, if not different ones. -/
theorem key_le_of_int {m n : Int64} (less : compare m.toInt n.toInt = .lt) :
    (Double.ofInt m.toInt).key ≤ (Double.ofInt n.toInt).key :=
  Double.key_ofInt_mono (Int.compare_eq_lt.mp less).le

theorem Compared.trans (first : Compared a b (some .lt)) (second : Compared b c (some .lt)) :
    Compared a c (some .lt) := by
  have noText {value : Value} {x : Double} {text : String} (number : value.number? = some x)
      (named : value.caseText? = some text) : False := by
    cases value with
    | string | enum => cases number
    | _ => cases named
  cases first with
  | int less =>
      cases second with
      | int less' => exact .int (Std.TransCmp.lt_trans less less')
      | number isInt third _ less' =>
          obtain rfl := Option.some.inj isInt
          obtain ⟨numbers, keys⟩ := Double.compare?_eq_lt_iff.mp less'
          exact compared_of_key_lt rfl third ⟨Double.isNaN_ofInt _, numbers.2⟩
            ((key_le_of_int less).trans_lt keys)
      | text named => cases named
  | number start middle _ less =>
      obtain ⟨numbers, keys⟩ := Double.compare?_eq_lt_iff.mp less
      cases second with
      | int less' =>
          obtain rfl := Option.some.inj middle
          exact compared_of_key_lt start rfl ⟨numbers.1, Double.isNaN_ofInt _⟩
            (keys.trans_le (key_le_of_int less'))
      | number middle' third _ less' =>
          obtain rfl := Option.some.inj (middle.symm.trans middle')
          obtain ⟨numbers', keys'⟩ := Double.compare?_eq_lt_iff.mp less'
          exact compared_of_key_lt start third ⟨numbers.1, numbers'.2⟩ (keys.trans keys')
      | text named => exact (noText middle named).elim
      | date | dateTime | time => cases middle
  | text start middle less =>
      cases second with
      | text middle' third less' =>
          obtain rfl := Option.some.inj (middle.symm.trans middle')
          exact .text start third (Std.TransCmp.lt_trans less less')
      | number number => exact (noText number middle).elim
      | int | date | dateTime | time => cases middle
  | date less =>
      cases second with
      | date less' => exact .date (Std.TransCmp.lt_trans less less')
      | text other | number other => cases other
  | dateTime less =>
      cases second with
      | dateTime less' => exact .dateTime (Std.TransCmp.lt_trans less less')
      | text other | number other => cases other
  | time less =>
      cases second with
      | time less' => exact .time (Std.TransCmp.lt_trans less less')
      | text other | number other => cases other

/-! ## Coherence -/

theorem holds?_eq_none_iff {relation : Relation} (ordering : relation.isOrdering = true) :
    relation.holds? a b = none ↔ a.order? b = none := by
  cases relation with
  | eq | ne => cases ordering
  | _ => simp [Relation.holds?]

/-- The order of values is one order.  Swapping two values reverses it; where the values are not
comparable, a comparison in either direction fails with the kinds in its own direction.  Where it is
defined, equality is too and agrees with it.  It is irreflexive and transitive, for ints beyond the
precision of doubles and for strings among cases as well. -/
theorem order?_coherent (a b c : Value) :
    a.order? b = (b.order? a).map (Option.map Ordering.swap) ∧
      (∀ relation : Relation, relation.isOrdering = true → ∀ error,
        (Condition.relates relation b).test a = .error error ↔
          b.order? a = none ∧ error = .unsupportedComparison a.kind b.kind (.relates relation)) ∧
      (∀ order, a.order? b = some order → a.equal? b = some (order == some .eq)) ∧
      a.order? a ≠ some (some .lt) ∧
      (a.order? b = some (some .lt) → b.order? c = some (some .lt) →
        a.order? c = some (some .lt)) := by
  refine ⟨order?_swap a b, ?errors, ?equality, order?_self_ne_lt a, ?transitivity⟩
  case errors =>
    intro relation ordering error
    rw [Condition.test, Condition.supported_eq_error_iff, holds?_eq_none_iff ordering,
      order?_swap a b, Option.map_eq_none_iff]
    rfl
  case equality =>
    intro order ordered
    exact (order?_eq_some_iff.mp ordered).equal?_eq
  case transitivity =>
    simp only [order?_eq_some_iff]
    exact Compared.trans

/-- Neither int is a double: one is rounded down to `2 ^ 53` and the other up to `2 ^ 53 + 4`, to both
sides of the double `2 ^ 53 + 2`. -/
theorem order?_coherent_beyondPrecision :
    (int 9007199254740993).order? (double ⟨0x4340000000000001⟩) = some (some .lt) ∧
      (double ⟨0x4340000000000001⟩).order? (int 9007199254740995) = some (some .lt) ∧
      (int 9007199254740993).order? (int 9007199254740995) = some (some .lt) := by
  have first : (int 9007199254740993).order? (double ⟨0x4340000000000001⟩) = some (some .lt) := by
    decide
  have second : (double ⟨0x4340000000000001⟩).order? (int 9007199254740995) = some (some .lt) := by
    decide
  exact ⟨first, second, (order?_coherent _ _ _).2.2.2.2 first second⟩

end Value
end RecordQuery
