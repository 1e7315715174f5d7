import RecordQuery.Proofs.Double.Decimal

/-!
# Rounding keeps the order

A quotient that grows is rounded to a magnitude that grows or stays.  Under one scale the rounded
significand grows; where the scale grows, a significand of at most `2 ^ 53` gives way to one of at
least `2 ^ 52` under a greater exponent.  So integers in order are doubles in order.
-/

namespace RecordQuery
namespace Double

/-! ## Significands -/

theorem div_le_roundQuotient (numerator denominator : Nat) :
    numerator / denominator ≤ roundQuotient numerator denominator := by
  simp only [roundQuotient]
  split_ifs <;> omega

theorem roundQuotient_le_succ (numerator denominator : Nat) :
    roundQuotient numerator denominator ≤ numerator / denominator + 1 := by
  simp only [roundQuotient]
  split_ifs <;> omega

theorem le_roundQuotient {numerator denominator bound : Nat} (positive : 0 < denominator)
    (reaches : bound * denominator ≤ numerator) : bound ≤ roundQuotient numerator denominator :=
  ((Nat.le_div_iff_mul_le positive).mpr reaches).trans (div_le_roundQuotient _ _)

theorem roundQuotient_le {numerator denominator bound : Nat} (positive : 0 < denominator)
    (below : numerator < bound * denominator) : roundQuotient numerator denominator ≤ bound := by
  have quotient_lt : numerator / denominator < bound := (Nat.div_lt_iff_lt_mul positive).mpr below
  simp only [roundQuotient]
  split
  · omega
  · split <;> omega

/-- Between two quotients of different whole parts there is a whole number; those of the same whole
part are rounded by their remainders. -/
theorem roundQuotient_mono {numerator numerator' : Nat} (le : numerator ≤ numerator')
    (denominator : Nat) :
    roundQuotient numerator denominator ≤ roundQuotient numerator' denominator := by
  have quotient_le : numerator / denominator ≤ numerator' / denominator := Nat.div_le_div_right le
  rcases Nat.lt_or_eq_of_le quotient_le with less | same
  · calc roundQuotient numerator denominator
        ≤ numerator / denominator + 1 := roundQuotient_le_succ _ _
      _ ≤ numerator' / denominator := less
      _ ≤ roundQuotient numerator' denominator := div_le_roundQuotient _ _
  · have division := Nat.div_add_mod numerator denominator
    have division' := Nat.div_add_mod numerator' denominator
    have remainder_le : numerator % denominator ≤ numerator' % denominator := by
      rw [same] at division
      omega
    simp only [roundQuotient, same]
    split_ifs <;> omega

theorem roundScaled_mono {numerator numerator' : Nat} (le : numerator ≤ numerator')
    (denominator : Nat) (power : Int) :
    roundScaled numerator denominator power ≤ roundScaled numerator' denominator power :=
  roundQuotient_mono (Nat.mul_le_mul_right _ le) _

/-- The rounded significand has at most fifty-three bits, or is the next power of two. -/
theorem roundScaled_scaleOf_le {numerator denominator : Nat} (numerator_pos : 0 < numerator)
    (denominator_pos : 0 < denominator) :
    roundScaled numerator denominator (scaleOf numerator denominator) ≤ 2 ^ 53 := by
  have scale := scaleOf_eq numerator_pos denominator_pos
  have below : (numerator : ℚ) / denominator <
      2 ^ (Int.log 2 ((numerator : ℚ) / denominator) + 1) := by
    exact_mod_cast Int.lt_zpow_succ_log_self (b := 2) (by decide) ((numerator : ℚ) / denominator)
  generalize scaleOf numerator denominator = power at *
  have above : (numerator : ℚ) / denominator < 2 ^ 53 * 2 ^ power :=
    calc (numerator : ℚ) / denominator
        < 2 ^ (Int.log 2 ((numerator : ℚ) / denominator) + 1) := below
      _ ≤ 2 ^ (53 + power) := zpow_le_zpow_right₀ (by norm_num) (by omega)
      _ = 2 ^ 53 * 2 ^ power := by
          rw [zpow_add₀ (by norm_num)]
          norm_num
  have cast := zpow_eq_div (by decide : 0 < 2) power
  rw [Nat.cast_ofNat] at cast
  have denominator_pos' : (0 : ℚ) < denominator := by exact_mod_cast denominator_pos
  have parts_pos : (0 : ℚ) < (2 ^ (-power).toNat : Nat) := by exact_mod_cast Nat.two_pow_pos _
  rw [cast, ← mul_div_assoc, div_lt_div_iff₀ denominator_pos' parts_pos] at above
  apply roundQuotient_le (Nat.mul_pos denominator_pos (Nat.two_pow_pos _))
  have cleared : ((numerator * 2 ^ (-power).toNat : Nat) : ℚ) <
      (2 ^ 53 * (denominator * 2 ^ power.toNat) : Nat) := by
    push_cast at above ⊢
    linarith
  exact_mod_cast cleared

/-- Above the least scale the rounded significand has fifty-three bits. -/
theorem le_roundScaled_scaleOf {numerator denominator : Nat} (numerator_pos : 0 < numerator)
    (denominator_pos : 0 < denominator) (large : -1074 < scaleOf numerator denominator) :
    2 ^ 52 ≤ roundScaled numerator denominator (scaleOf numerator denominator) := by
  have scale := scaleOf_eq numerator_pos denominator_pos
  have numerator_pos' : (0 : ℚ) < numerator := by exact_mod_cast numerator_pos
  have denominator_pos' : (0 : ℚ) < denominator := by exact_mod_cast denominator_pos
  have below : (2 : ℚ) ^ Int.log 2 ((numerator : ℚ) / denominator) ≤ numerator / denominator := by
    exact_mod_cast Int.zpow_log_le_self (b := 2) (by decide) (div_pos numerator_pos' denominator_pos')
  generalize scaleOf numerator denominator = power at *
  have reaches : (2 : ℚ) ^ 52 * 2 ^ power ≤ numerator / denominator := by
    rw [show Int.log 2 ((numerator : ℚ) / denominator) = 52 + power by omega,
      zpow_add₀ (by norm_num)] at below
    exact_mod_cast below
  have cast := zpow_eq_div (by decide : 0 < 2) power
  rw [Nat.cast_ofNat] at cast
  have parts_pos : (0 : ℚ) < (2 ^ (-power).toNat : Nat) := by exact_mod_cast Nat.two_pow_pos _
  rw [cast, ← mul_div_assoc, div_le_div_iff₀ parts_pos denominator_pos'] at reaches
  apply le_roundQuotient (Nat.mul_pos denominator_pos (Nat.two_pow_pos _))
  have cleared : ((2 ^ 52 * (denominator * 2 ^ power.toNat) : Nat) : ℚ) ≤
      (numerator * 2 ^ (-power).toNat : Nat) := by
    push_cast at reaches ⊢
    linarith
  exact_mod_cast cleared

/-! ## Magnitudes -/

theorem scaleOf_mono {numerator numerator' denominator : Nat} (numerator_pos : 0 < numerator)
    (denominator_pos : 0 < denominator) (le : numerator ≤ numerator') :
    scaleOf numerator denominator ≤ scaleOf numerator' denominator := by
  have numerator_pos' : (0 : ℚ) < numerator := by exact_mod_cast numerator_pos
  have denominator_pos' : (0 : ℚ) < denominator := by exact_mod_cast denominator_pos
  have quotient_le : (numerator : ℚ) / denominator ≤ numerator' / denominator :=
    div_le_div_of_nonneg_right (by exact_mod_cast le) denominator_pos'.le
  have log_le := Int.log_mono_right (b := 2) (div_pos numerator_pos' denominator_pos') quotient_le
  rw [scaleOf_eq numerator_pos denominator_pos,
    scaleOf_eq (numerator_pos.trans_le le) denominator_pos]
  omega

/-- Of two quotients with one denominator, the greater one has no smaller magnitude. -/
theorem magnitudeOfRatio_mono {numerator numerator' denominator : Nat}
    (denominator_pos : 0 < denominator) (le : numerator ≤ numerator') :
    magnitudeOfRatio numerator denominator ≤ magnitudeOfRatio numerator' denominator := by
  by_cases zero : numerator = 0
  · rw [magnitudeOfRatio, if_pos zero]
    exact Nat.zero_le _
  have numerator_pos := Nat.pos_of_ne_zero zero
  have numerator_pos' := numerator_pos.trans_le le
  have scale_le := scaleOf_mono numerator_pos denominator_pos le
  have scale_ge : -1074 ≤ scaleOf numerator denominator := by
    rw [scaleOf_eq numerator_pos denominator_pos]
    omega
  simp only [magnitudeOfRatio, Nat.pow_eq, if_neg zero, if_neg numerator_pos'.ne']
  apply min_le_min_right
  rcases scale_le.lt_or_eq with less | same
  · have small := roundScaled_scaleOf_le numerator_pos denominator_pos
    have large := le_roundScaled_scaleOf numerator_pos' denominator_pos (by omega)
    omega
  · have rounded := roundScaled_mono le denominator (scaleOf numerator denominator)
    rw [← same]
    omega

theorem magnitudeOfRatio_le (numerator denominator : Nat) :
    magnitudeOfRatio numerator denominator ≤ infiniteMagnitude := by
  unfold magnitudeOfRatio
  split
  · exact Nat.zero_le _
  · exact Nat.min_le_right _ _

/-! ## Integers -/

theorem magnitude_ofInt (n : Int) : (ofInt n).magnitude = magnitudeOfRatio n.natAbs 1 :=
  magnitude_ofMagnitude _ ((magnitudeOfRatio_le _ _).trans_lt (by decide))

theorem isNegative_ofInt (n : Int) : (ofInt n).isNegative = decide (n < 0) := by
  have fits : magnitudeOfRatio n.natAbs 1 < signBit :=
    (magnitudeOfRatio_le _ _).trans_lt (by decide)
  rw [ofInt, ofRatio, isNegative, toNat_bits_ofMagnitude _ fits]
  by_cases negative : n < 0
  · simp [negative]
  · simpa [negative] using fits

/-- The double nearest to an integer is a number. -/
theorem isNaN_ofInt (n : Int) : (ofInt n).isNaN = false := by
  rw [isNaN, magnitude_ofInt]
  exact decide_eq_false (magnitudeOfRatio_le _ _).not_gt

theorem key_ofInt (n : Int) : (ofInt n).key =
    if n < 0 then -(magnitudeOfRatio n.natAbs 1 : Int) else magnitudeOfRatio n.natAbs 1 := by
  rw [key, isNegative_ofInt, magnitude_ofInt]
  simp only [decide_eq_true_eq]

/-- Integers in order are read as doubles in order. -/
theorem key_ofInt_mono {m n : Int} (le : m ≤ n) : (ofInt m).key ≤ (ofInt n).key := by
  rw [key_ofInt, key_ofInt]
  by_cases first : m < 0
  · by_cases second : n < 0
    · have magnitudes := magnitudeOfRatio_mono Nat.one_pos (show n.natAbs ≤ m.natAbs by omega)
      rw [if_pos first, if_pos second]
      omega
    · rw [if_pos first, if_neg second]
      omega
  · have magnitudes := magnitudeOfRatio_mono Nat.one_pos (show m.natAbs ≤ n.natAbs by omega)
    rw [if_neg first, if_neg (show ¬ n < 0 by omega)]
    omega

end Double
end RecordQuery
