import Mathlib.Data.Int.Log
import Mathlib.Data.Rat.Floor
import Mathlib.Tactic.FieldSimp
import Mathlib.Tactic.Linarith
import Mathlib.Tactic.NormNum
import Mathlib.Tactic.Positivity
import Mathlib.Tactic.Ring
import RecordQuery.Double.Rounding
import RecordQuery.Double.Shortest
import RecordQuery.Proofs.Double.Bits

/-!
# Rounding inverts the interval of a double

Every rational number between the ends of `Double.interval` rounds to that double.  The scale that
the rounding chooses is the exponent of the double, except just below a power of two, where it is
one less and the rounded significand carries.
-/

namespace RecordQuery
namespace Double

/-! ## Rounding to a natural number -/

/-- A natural number at most half a unit away is the rounded quotient, and has to be even if it is
exactly half a unit away. -/
theorem roundQuotient_eq {numerator denominator rounded : Nat} (positive : 0 < denominator)
    (below : 2 * rounded * denominator ≤ 2 * numerator + denominator)
    (above : 2 * numerator ≤ 2 * rounded * denominator + denominator)
    (tie : 2 * rounded * denominator = 2 * numerator + denominator ∨
      2 * numerator = 2 * rounded * denominator + denominator → rounded % 2 = 0) :
    roundQuotient numerator denominator = rounded := by
  simp only [roundQuotient]
  have division := Nat.div_add_mod numerator denominator
  have small := Nat.mod_lt numerator positive
  generalize numerator / denominator = quotient at *
  generalize numerator % denominator = remainder at *
  subst division
  have least : quotient ≤ rounded := by
    by_contra less
    have step : denominator * (rounded + 1) ≤ denominator * quotient :=
      Nat.mul_le_mul_left _ (by omega)
    nlinarith
  have most : rounded ≤ quotient + 1 := by
    by_contra more
    have step : denominator * (quotient + 2) ≤ denominator * rounded :=
      Nat.mul_le_mul_left _ (by omega)
    nlinarith
  obtain rfl | rfl : rounded = quotient ∨ rounded = quotient + 1 := by omega
  · have product : 2 * rounded * denominator = 2 * (denominator * rounded) := by ring
    rw [product] at below above tie
    split
    · rfl
    · split
      · omega
      · have even := tie (by omega)
        omega
  · have product : 2 * (quotient + 1) * denominator =
        2 * (denominator * quotient) + 2 * denominator := by ring
    rw [product] at below above tie
    split
    · omega
    · split
      · rfl
      · have even := tie (by omega)
        omega

/-! ## Powers as quotients of natural numbers -/

theorem zpow_eq_div {base : Nat} (positive : 0 < base) (power : Int) :
    (base : ℚ) ^ power = (base ^ power.toNat : Nat) / (base ^ (-power).toNat : Nat) := by
  have nonzero : (base : ℚ) ≠ 0 := by exact_mod_cast positive.ne'
  rw [Nat.cast_pow, Nat.cast_pow, ← zpow_natCast, ← zpow_natCast, ← zpow_sub₀ nonzero]
  congr 1
  omega

theorem two_zpow_pos (power : Int) : (0 : ℚ) < 2 ^ power :=
  zpow_pos (by norm_num) power

/-- A natural number within half a unit of a scaled quotient is what it rounds to, and has to be
even if it is exactly half a unit away. -/
theorem roundScaled_eq {numerator denominator rounded : Nat} {power : Int}
    (positive : 0 < denominator)
    (below : ((rounded : ℚ) - 1 / 2) * 2 ^ power ≤ (numerator : ℚ) / denominator)
    (above : (numerator : ℚ) / denominator ≤ ((rounded : ℚ) + 1 / 2) * 2 ^ power)
    (tie : (numerator : ℚ) / denominator = ((rounded : ℚ) - 1 / 2) * 2 ^ power ∨
      (numerator : ℚ) / denominator = ((rounded : ℚ) + 1 / 2) * 2 ^ power → rounded % 2 = 0) :
    roundScaled numerator denominator power = rounded := by
  have cast : ((2 : Nat) : ℚ) ^ power = _ := zpow_eq_div (by decide) power
  rw [Nat.cast_ofNat] at cast
  rw [cast] at below above tie
  rw [roundScaled, Nat.pow_eq, Nat.pow_eq]
  have up : 0 < 2 ^ power.toNat := Nat.two_pow_pos _
  have down : 0 < 2 ^ (-power).toNat := Nat.two_pow_pos _
  generalize 2 ^ power.toNat = times at *
  generalize 2 ^ (-power).toNat = parts at *
  have positive' : (0 : ℚ) < denominator := by exact_mod_cast positive
  have down' : (0 : ℚ) < parts := by exact_mod_cast down
  rw [← mul_div_assoc, div_le_div_iff₀ down' positive'] at below
  rw [← mul_div_assoc, div_le_div_iff₀ positive' down'] at above
  rw [← mul_div_assoc, ← mul_div_assoc, div_eq_div_iff positive'.ne' down'.ne',
    div_eq_div_iff positive'.ne' down'.ne'] at tie
  have belowNat : 2 * rounded * (denominator * times) ≤
      2 * (numerator * parts) + denominator * times := by
    have cleared : 2 * (rounded : ℚ) * (denominator * times) ≤
        2 * (numerator * parts) + denominator * times := by linarith
    exact_mod_cast cleared
  have aboveNat : 2 * (numerator * parts) ≤
      2 * rounded * (denominator * times) + denominator * times := by
    have cleared : 2 * ((numerator : ℚ) * parts) ≤
        2 * rounded * (denominator * times) + denominator * times := by linarith
    exact_mod_cast cleared
  refine roundQuotient_eq (Nat.mul_pos positive up) belowNat aboveNat ?_
  rintro (lowest | highest)
  · have cleared : 2 * (rounded : ℚ) * (denominator * times) =
        2 * (numerator * parts) + denominator * times := by exact_mod_cast lowest
    exact tie (.inl (by linarith))
  · have cleared : 2 * ((numerator : ℚ) * parts) =
        2 * rounded * (denominator * times) + denominator * times := by exact_mod_cast highest
    exact tie (.inr (by linarith))

/-! ## The scale of a quotient -/

theorem two_zpow_le_iff {numerator denominator : Nat} (positive : 0 < denominator) (power : Int) :
    denominator * 2 ^ power.toNat ≤ numerator * 2 ^ (-power).toNat ↔
      (2 : ℚ) ^ power ≤ (numerator : ℚ) / denominator := by
  have cast : ((2 : Nat) : ℚ) ^ power = _ := zpow_eq_div (by decide) power
  rw [Nat.cast_ofNat] at cast
  have positive' : (0 : ℚ) < denominator := by exact_mod_cast positive
  have down : (0 : ℚ) < (2 ^ (-power).toNat : Nat) := by exact_mod_cast Nat.two_pow_pos _
  rw [cast, div_le_div_iff₀ down positive', mul_comm denominator]
  exact_mod_cast Iff.rfl

theorem two_zpow_log2_le {n : Nat} (positive : 0 < n) : (2 : ℚ) ^ (n.log2 : Int) ≤ n := by
  rw [zpow_natCast]
  exact_mod_cast Nat.log2_self_le positive.ne'

theorem lt_two_zpow_log2 (n : Nat) : (n : ℚ) < 2 ^ ((n.log2 : Int) + 1) := by
  rw [← Nat.cast_succ, zpow_natCast]
  exact_mod_cast Nat.lt_log2_self

/-- The scale leaves fifty-three bits before the point, or is the least power of all. -/
theorem scaleOf_eq {numerator denominator : Nat} (numerator_pos : 0 < numerator)
    (denominator_pos : 0 < denominator) :
    scaleOf numerator denominator =
      max (Int.log 2 ((numerator : ℚ) / denominator) - 52) (-1074) := by
  have numerator_pos' : (0 : ℚ) < numerator := by exact_mod_cast numerator_pos
  have denominator_pos' : (0 : ℚ) < denominator := by exact_mod_cast denominator_pos
  have quotient_pos : 0 < (numerator : ℚ) / denominator := div_pos numerator_pos' denominator_pos'
  have reach_iff (power : Int) : (2 : ℚ) ^ power ≤ (numerator : ℚ) / denominator ↔
      power ≤ Int.log 2 ((numerator : ℚ) / denominator) := by
    exact_mod_cast Int.zpow_le_iff_le_log (b := 2) (by decide) quotient_pos
  have least : (2 : ℚ) ^ ((numerator.log2 : Int) - denominator.log2 - 1) ≤
      (numerator : ℚ) / denominator := by
    rw [show (numerator.log2 : Int) - denominator.log2 - 1 =
      numerator.log2 - (denominator.log2 + 1) by omega, zpow_sub₀ (by norm_num)]
    exact div_le_div₀ numerator_pos'.le (two_zpow_log2_le numerator_pos) denominator_pos'
      (lt_two_zpow_log2 denominator).le
  have most : (numerator : ℚ) / denominator <
      (2 : ℚ) ^ ((numerator.log2 : Int) - denominator.log2 + 1) := by
    rw [show (numerator.log2 : Int) - denominator.log2 + 1 =
      numerator.log2 + 1 - denominator.log2 by omega, zpow_sub₀ (by norm_num)]
    exact div_lt_div₀ (lt_two_zpow_log2 numerator) (two_zpow_log2_le denominator_pos)
      (two_zpow_pos _).le (two_zpow_pos _)
  have above : Int.log 2 ((numerator : ℚ) / denominator) <
      (numerator.log2 : Int) - denominator.log2 + 1 := by
    rw [← not_le, ← reach_iff, not_le]
    exact most
  rw [reach_iff] at least
  simp only [scaleOf, Nat.pow_eq, two_zpow_le_iff denominator_pos, reach_iff]
  split <;> omega

/-! ## The interval of a double -/

/-- A rational number lies between the ends of an interval, which belong to it if it is closed. -/
def Interval.Contains (ends : Interval) (x : ℚ) : Prop :=
  if ends.closed then ends.lower * 2 ^ ends.scale ≤ x ∧ x ≤ ends.upper * 2 ^ ends.scale
  else ends.lower * 2 ^ ends.scale < x ∧ x < ends.upper * 2 ^ ends.scale

theorem Interval.Contains.bounds {ends : Interval} {x : ℚ} (inside : ends.Contains x) :
    ends.lower * 2 ^ ends.scale ≤ x ∧ x ≤ ends.upper * 2 ^ ends.scale := by
  unfold Contains at inside
  split at inside
  · exact inside
  · exact ⟨inside.1.le, inside.2.le⟩

/-- Only a closed interval contains one of its ends. -/
theorem Interval.Contains.closed_of_end {ends : Interval} {x : ℚ} (inside : ends.Contains x)
    (atEnd : x = ends.lower * 2 ^ ends.scale ∨ x = ends.upper * 2 ^ ends.scale) :
    ends.closed = true := by
  unfold Contains at inside
  split at inside
  · assumption
  · rcases atEnd with same | same
    · exact absurd same inside.1.ne'
    · exact absurd same inside.2.ne

section Ends

variable {d : Double}

theorem scale_zpow (d : Double) : (2 : ℚ) ^ d.interval.scale = 2 ^ d.exponent / 4 := by
  show (2 : ℚ) ^ (d.exponent - 2) = _
  rw [zpow_sub₀ (by norm_num)]
  norm_num

/-- Half a unit above the double is the upper end of its interval. -/
theorem upper_eq (d : Double) :
    (d.interval.upper : ℚ) * 2 ^ d.interval.scale =
      ((d.significand : ℚ) + 1 / 2) * 2 ^ d.exponent := by
  rw [scale_zpow]
  show ((4 * d.significand + 2 : Nat) : ℚ) * _ = _
  push_cast
  ring

/-- Half a unit below the double is the lower end of its interval, unless the double is a power of
two and not the least of its kind. -/
theorem lower_eq (positive : 0 < d.significand)
    (inside : ¬(d.significand = 2 ^ 52 ∧ -1074 < d.exponent)) :
    (d.interval.lower : ℚ) * 2 ^ d.interval.scale =
      ((d.significand : ℚ) - 1 / 2) * 2 ^ d.exponent := by
  rw [scale_zpow]
  simp only [interval, Nat.pow_eq, if_neg inside]
  rw [Nat.cast_sub (by omega)]
  push_cast
  ring

/-- Below a power of two the interval reaches a quarter of a unit down. -/
theorem lower_eq_of_power (power : d.significand = 2 ^ 52) (large : -1074 < d.exponent) :
    (d.interval.lower : ℚ) * 2 ^ d.interval.scale =
      ((2 : ℚ) ^ 53 - 1 / 2) * 2 ^ (d.exponent - 1) := by
  rw [scale_zpow, zpow_sub₀ (by norm_num)]
  simp only [interval, Nat.pow_eq, power, large, and_self, if_true]
  norm_num
  ring

end Ends

theorem center_mem {d : Double} (nonzero : d.magnitude ≠ 0) :
    d.interval.lower < d.interval.center ∧ d.interval.center < d.interval.upper := by
  have significand_pos := d.significand_pos nonzero
  simp only [interval, Nat.pow_eq]
  constructor
  · split <;> omega
  · omega

/-- Nothing that is not positive lies in the interval of a positive double. -/
theorem pos_of_contains {d : Double} (nonzero : d.magnitude ≠ 0) {x : ℚ}
    (inside : d.interval.Contains x) : 0 < x := by
  have significand_pos := d.significand_pos nonzero
  have lower_pos : 0 < d.interval.lower := by
    simp only [interval, Nat.pow_eq]
    split <;> omega
  have lower_pos' : (0 : ℚ) < d.interval.lower := by exact_mod_cast lower_pos
  exact (mul_pos lower_pos' (two_zpow_pos _)).trans_le inside.bounds.1

/-- What lies in the interval of a double is at most half a unit away from it. -/
theorem near_of_contains {d : Double} (nonzero : d.magnitude ≠ 0) {x : ℚ}
    (inside : d.interval.Contains x) :
    ((d.significand : ℚ) - 1 / 2) * 2 ^ d.exponent ≤ x ∧
      x ≤ ((d.significand : ℚ) + 1 / 2) * 2 ^ d.exponent := by
  have significand_pos := d.significand_pos nonzero
  obtain ⟨lower, upper⟩ := inside.bounds
  refine ⟨le_trans ?_ lower, upper_eq d ▸ upper⟩
  have lower_ge : 4 * d.significand ≤ d.interval.lower + 2 := by
    simp only [interval, Nat.pow_eq]
    split <;> omega
  have lower_ge' : 4 * (d.significand : ℚ) ≤ d.interval.lower + 2 := by exact_mod_cast lower_ge
  rw [scale_zpow, ← mul_div_assoc, le_div_iff₀ (by norm_num)]
  have unit_pos := two_zpow_pos d.exponent
  nlinarith

/-- The interval of a finite double ends below the next power of two after its leading bit. -/
theorem lt_of_contains {d : Double} {x : ℚ} (inside : d.interval.Contains x) :
    x < 2 ^ (d.exponent + 53) := by
  have small : (d.significand : ℚ) + 1 ≤ 2 ^ 53 := by exact_mod_cast d.significand_lt
  have upper := inside.bounds.2
  rw [upper_eq] at upper
  calc x ≤ ((d.significand : ℚ) + 1 / 2) * 2 ^ d.exponent := upper
    _ < 2 ^ 53 * 2 ^ d.exponent := mul_lt_mul_of_pos_right (by linarith) (two_zpow_pos _)
    _ = 2 ^ (d.exponent + 53) := by rw [zpow_add₀ (by norm_num), mul_comm]; norm_num

/-- Above a power of two the interval begins within the range of the same leading bit. -/
theorem le_of_contains {d : Double} (large : -1074 < d.exponent) (above : d.significand ≠ 2 ^ 52)
    {x : ℚ} (inside : d.interval.Contains x) : 2 ^ (d.exponent + 52) ≤ x := by
  have significand_ge := d.significand_ge large
  have significand_gt : (2 : ℚ) ^ 52 + 1 ≤ d.significand := by
    exact_mod_cast (by omega : 2 ^ 52 + 1 ≤ d.significand)
  have lower := inside.bounds.1
  rw [lower_eq (by omega) (fun power => above power.1)] at lower
  calc (2 : ℚ) ^ (d.exponent + 52) = 2 ^ 52 * 2 ^ d.exponent := by
        rw [zpow_add₀ (by norm_num), mul_comm]
        norm_num
    _ ≤ ((d.significand : ℚ) - 1 / 2) * 2 ^ d.exponent :=
        mul_le_mul_of_nonneg_right (by linarith) (two_zpow_pos _).le
    _ ≤ x := lower

/-- At a power of two it begins within the range of the leading bit below. -/
theorem le_of_contains_power {d : Double} (large : -1074 < d.exponent)
    (power : d.significand = 2 ^ 52) {x : ℚ} (inside : d.interval.Contains x) :
    2 ^ (d.exponent + 51) ≤ x := by
  have lower := inside.bounds.1
  rw [lower_eq_of_power power large] at lower
  calc (2 : ℚ) ^ (d.exponent + 51) = 2 ^ 52 * 2 ^ (d.exponent - 1) := by
        rw [show d.exponent + 51 = 52 + (d.exponent - 1) by omega, zpow_add₀ (by norm_num)]
        norm_num
    _ ≤ ((2 : ℚ) ^ 53 - 1 / 2) * 2 ^ (d.exponent - 1) :=
        mul_le_mul_of_nonneg_right (by norm_num) (two_zpow_pos _).le
    _ ≤ x := lower

/-- A rounded quotient of the interval that has the scale of the double is its significand. -/
theorem roundScaled_exponent {d : Double} (nonzero : d.magnitude ≠ 0)
    {numerator denominator : Nat} (denominator_pos : 0 < denominator)
    (inside : d.interval.Contains ((numerator : ℚ) / denominator))
    (reaches : d.significand = 2 ^ 52 ∧ -1074 < d.exponent →
      (d.significand : ℚ) * 2 ^ d.exponent ≤ (numerator : ℚ) / denominator) :
    roundScaled numerator denominator d.exponent = d.significand := by
  have unit_pos := two_zpow_pos d.exponent
  have upper := inside.bounds.2
  have lower := inside.bounds.1
  have ends := inside.closed_of_end
  have even_of_closed : d.interval.closed = true → d.significand % 2 = 0 := of_decide_eq_true
  rw [upper_eq] at upper ends
  by_cases power : d.significand = 2 ^ 52 ∧ -1074 < d.exponent
  · have least := reaches power
    refine roundScaled_eq denominator_pos ?_ upper (fun _ => by rw [power.1]; rfl)
    exact (mul_le_mul_of_nonneg_right (by linarith) unit_pos.le).trans least
  · rw [lower_eq (d.significand_pos nonzero) power] at lower ends
    exact roundScaled_eq denominator_pos lower upper fun tie => even_of_closed (ends tie)

/-- Just below a power of two the significand rounds up to the next power of two. -/
theorem roundScaled_carry {d : Double} (power : d.significand = 2 ^ 52)
    (large : -1074 < d.exponent) {numerator denominator : Nat} (denominator_pos : 0 < denominator)
    (inside : d.interval.Contains ((numerator : ℚ) / denominator))
    (below : (numerator : ℚ) / denominator < 2 ^ (d.exponent + 52)) :
    roundScaled numerator denominator (d.exponent - 1) = 2 ^ 53 := by
  have lower := inside.bounds.1
  rw [lower_eq_of_power power large] at lower
  have upper : (numerator : ℚ) / denominator < (2 : ℚ) ^ 53 * 2 ^ (d.exponent - 1) := by
    rw [show d.exponent + 52 = 53 + (d.exponent - 1) by omega, zpow_add₀ (by norm_num)] at below
    exact_mod_cast below
  refine roundScaled_eq denominator_pos ?_ ?_ fun _ => rfl
  · exact_mod_cast lower
  · have unit_pos := two_zpow_pos (d.exponent - 1)
    push_cast
    linarith

/-- A quotient in the interval of a double rounds to the magnitude of that double. -/
theorem magnitudeOfRatio_eq {d : Double} (finite : d.isFinite = true) (nonzero : d.magnitude ≠ 0)
    {numerator denominator : Nat} (denominator_pos : 0 < denominator)
    (inside : d.interval.Contains ((numerator : ℚ) / denominator)) :
    magnitudeOfRatio numerator denominator = d.magnitude := by
  have quotient_pos := pos_of_contains nonzero inside
  have numerator_ne : numerator ≠ 0 := by
    rintro rfl
    simp at quotient_pos
  have scale := scaleOf_eq (Nat.pos_of_ne_zero numerator_ne) denominator_pos
  have reach_iff (power : Int) : (2 : ℚ) ^ power ≤ (numerator : ℚ) / denominator ↔
      power ≤ Int.log 2 ((numerator : ℚ) / denominator) := by
    exact_mod_cast Int.zpow_le_iff_le_log (b := 2) (by decide) quotient_pos
  have most : Int.log 2 ((numerator : ℚ) / denominator) < d.exponent + 53 := by
    rw [← not_le, ← reach_iff, not_le]
    exact lt_of_contains inside
  have least := d.le_exponent
  have magnitude := d.magnitude_eq
  have finite' : d.magnitude < infiniteMagnitude := of_decide_eq_true finite
  simp only [magnitudeOfRatio, Nat.pow_eq, if_neg numerator_ne]
  by_cases carries : (d.significand = 2 ^ 52 ∧ -1074 < d.exponent) ∧
      (numerator : ℚ) / denominator < 2 ^ (d.exponent + 52)
  · obtain ⟨⟨power, large⟩, below⟩ := carries
    have low := (reach_iff _).mp (le_of_contains_power large power inside)
    have scale_below : scaleOf numerator denominator = d.exponent - 1 := by
      rw [← not_le, reach_iff] at below
      omega
    rw [scale_below, roundScaled_carry power large denominator_pos inside below]
    rw [power] at magnitude
    omega
  · have reaches : -1074 < d.exponent → (2 : ℚ) ^ (d.exponent + 52) ≤ numerator / denominator := by
      intro large
      by_cases power : d.significand = 2 ^ 52
      · exact not_lt.mp fun below => carries ⟨⟨power, large⟩, below⟩
      · exact le_of_contains large power inside
    have scale_exponent : scaleOf numerator denominator = d.exponent := by
      simp only [reach_iff] at reaches
      omega
    have rounded : roundScaled numerator denominator d.exponent = d.significand := by
      refine roundScaled_exponent nonzero denominator_pos inside fun ⟨power, large⟩ => ?_
      have reached := reaches large
      rw [zpow_add₀ (by norm_num), mul_comm] at reached
      rw [power]
      exact_mod_cast reached
    rw [scale_exponent, rounded, ← magnitude]
    exact Nat.min_eq_left finite'.le

end Double
end RecordQuery
