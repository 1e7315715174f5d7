import RecordQuery.Proofs.Double.Decimal

/-!
# The shortest decimal lies in the interval

The search for the shortest decimal always finds one, at the latest on the grid on which the double
itself lies, and whatever it finds lies in the interval of the double.
-/

namespace RecordQuery
namespace Double

namespace Interval

/-- The comparison in natural numbers over a common denominator is the comparison in rational
numbers. -/
theorem holds_iff (ends : Interval) (power : Int) (count : Nat) :
    ends.holds (2 ^ ends.scale.toNat * 10 ^ (-power).toNat)
        (2 ^ (-ends.scale).toNat * 10 ^ power.toNat) count = true ↔
      ends.Contains (Decimal.value ⟨count, power⟩) := by
  have two := zpow_eq_div (by decide : 0 < 2) ends.scale
  have ten := zpow_eq_div (by decide : 0 < 10) power
  rw [Nat.cast_ofNat] at two ten
  have two_pos : (0 : ℚ) < (2 ^ (-ends.scale).toNat : Nat) := by exact_mod_cast Nat.two_pow_pos _
  have ten_pos : (0 : ℚ) < (10 ^ (-power).toNat : Nat) := by
    exact_mod_cast Nat.pow_pos (by decide : 0 < 10)
  have common_pos := mul_pos two_pos ten_pos
  have unit_eq (n : Nat) : ((n * (2 ^ ends.scale.toNat * 10 ^ (-power).toNat) : Nat) : ℚ) =
      n * 2 ^ ends.scale * ((2 ^ (-ends.scale).toNat : Nat) * (10 ^ (-power).toNat : Nat)) := by
    rw [two]
    field_simp
    push_cast
    ring
  have point_eq : ((count * (2 ^ (-ends.scale).toNat * 10 ^ power.toNat) : Nat) : ℚ) =
      Decimal.value ⟨count, power⟩ *
        ((2 ^ (-ends.scale).toNat : Nat) * (10 ^ (-power).toNat : Nat)) := by
    rw [Decimal.value, ten]
    field_simp
    push_cast
    ring
  unfold holds Contains
  simp only
  split
  · simp only [Bool.and_eq_true, decide_eq_true_eq]
    rw [← Nat.cast_le (α := ℚ), ← Nat.cast_le (α := ℚ), unit_eq, unit_eq, point_eq,
      mul_le_mul_iff_left₀ common_pos, mul_le_mul_iff_left₀ common_pos]
  · simp only [Bool.and_eq_true, decide_eq_true_eq]
    rw [← Nat.cast_lt (α := ℚ), ← Nat.cast_lt (α := ℚ), unit_eq, unit_eq, point_eq,
      mul_lt_mul_iff_left₀ common_pos, mul_lt_mul_iff_left₀ common_pos]

/-- What holds of two numbers holds of the one that is preferred. -/
private theorem holds_preferred {ends : Interval} {unit step count : Nat}
    (below : ends.holds unit step count = true) (above : ends.holds unit step (count + 1) = true)
    (prefer : Bool) : ends.holds unit step (if prefer then count + 1 else count) = true := by
  cases prefer with
  | false => exact below
  | true => exact above

theorem contains_of_onGrid? {ends : Interval} {tie : Tie} {power : Int} {decimal : Decimal}
    (found : ends.onGrid? tie power = some decimal) :
    decimal.exponent = power ∧ ends.Contains decimal.value := by
  simp only [onGrid?] at found
  split at found
  · rename_i below above
    obtain rfl := Option.some.inj found
    exact ⟨rfl, (holds_iff _ _ _).mp (holds_preferred below above _)⟩
  · rename_i below _
    obtain rfl := Option.some.inj found
    exact ⟨rfl, (holds_iff _ _ _).mp below⟩
  · rename_i _ above
    obtain rfl := Option.some.inj found
    exact ⟨rfl, (holds_iff _ _ _).mp above⟩
  · simp at found

theorem contains_of_search {ends : Interval} {tie : Tie} {fuel : Nat} {power : Int}
    {decimal : Decimal} (found : ends.search tie fuel power = some decimal) :
    ends.Contains decimal.value := by
  induction fuel generalizing power with
  | zero => simp [search] at found
  | succ fuel ih =>
      rw [search, Option.or_eq_some_iff] at found
      rcases found with here | ⟨-, later⟩
      · exact (contains_of_onGrid? here).2
      · exact ih later

/-- A search with enough fuel to reach a grid with a decimal of the interval finds one. -/
theorem isSome_search {ends : Interval} {tie : Tie} {goal : Int}
    (onGoal : (ends.onGrid? tie goal).isSome) {fuel : Nat} {power : Int} (above : goal ≤ power)
    (reaches : power - goal < fuel) : (ends.search tie fuel power).isSome := by
  induction fuel generalizing power with
  | zero => omega
  | succ fuel ih =>
      rw [search, Option.isSome_or, Bool.or_eq_true]
      by_cases same : power = goal
      · subst same
        exact .inl onGoal
      · exact .inr (ih (by omega) (by omega))

/-- The center is found on a grid on which it lies. -/
theorem isSome_onGrid? {ends : Interval} (lower : ends.lower < ends.center)
    (upper : ends.center < ends.upper) (tie : Tie) {power : Int}
    (onGrid : 2 ^ (-ends.scale).toNat * 10 ^ power.toNat ∣
      ends.center * (2 ^ ends.scale.toNat * 10 ^ (-power).toNat)) :
    (ends.onGrid? tie power).isSome := by
  have unit_pos : 0 < 2 ^ ends.scale.toNat * 10 ^ (-power).toNat := by positivity
  have found : ends.holds (2 ^ ends.scale.toNat * 10 ^ (-power).toNat)
      (2 ^ (-ends.scale).toNat * 10 ^ power.toNat)
      (ends.center * (2 ^ ends.scale.toNat * 10 ^ (-power).toNat) /
        (2 ^ (-ends.scale).toNat * 10 ^ power.toNat)) = true := by
    have above := Nat.mul_lt_mul_of_pos_right lower unit_pos
    have below := Nat.mul_lt_mul_of_pos_right upper unit_pos
    simp only [holds, Nat.div_mul_cancel onGrid]
    split
    · simp [above.le, below.le]
    · simp [above, below]
  simp only [onGrid?, Nat.pow_eq, found]
  split <;> simp_all

/-- On the grid of the least power every number of the interval's unit lies. -/
theorem onGrid_least (ends : Interval) :
    2 ^ (-ends.scale).toNat * 10 ^ (min ends.scale 0).toNat ∣
      ends.center * (2 ^ ends.scale.toNat * 10 ^ (-min ends.scale 0).toNat) := by
  have step : (min ends.scale 0).toNat = 0 := by omega
  have unit : (-min ends.scale 0).toNat = (-ends.scale).toNat := by omega
  rw [step, unit, pow_zero, mul_one]
  have divides : 2 ^ (-ends.scale).toNat ∣ 10 ^ (-ends.scale).toNat :=
    pow_dvd_pow_of_dvd (by decide) _
  exact Dvd.dvd.mul_left (Dvd.dvd.mul_left divides _) _

end Interval

/-- The shortest decimal lies in the interval of the double. -/
theorem contains_shortest {d : Double} (nonzero : d.magnitude ≠ 0) (tie : Tie) :
    d.interval.Contains (d.shortest tie).value := by
  obtain ⟨lower, upper⟩ := center_mem nonzero
  have onGoal := Interval.isSome_onGrid? lower upper tie d.interval.onGrid_least
  have found (start : Int) (above : min d.interval.scale 0 ≤ start) :
      (d.interval.search tie ((start - min d.interval.scale 0).toNat + 1) start).isSome :=
    Interval.isSome_search onGoal above (by omega)
  have reached := found (((d.interval.center.log2 : Int) + d.interval.scale) * 30103 / 100000 + 3)
    (by omega)
  obtain ⟨decimal, search⟩ := Option.isSome_iff_exists.mp reached
  have shortest : d.shortest tie = decimal := by
    simp only [Double.shortest, search, Option.getD_some]
  rw [shortest]
  exact Interval.contains_of_search search

end Double
end RecordQuery
