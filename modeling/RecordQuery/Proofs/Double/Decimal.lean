import RecordQuery.Proofs.Double.Nearest

/-!
# Reading decimals

A decimal in the interval of a double is read as that double.  The readers' shortcuts for decimals
of very many or very few places are never taken there: every finite double is below `10 ^ 309`, and
the interval of every positive one lies above `10 ^ -325`.
-/

namespace RecordQuery
namespace Double

/-- The number that a decimal stands for. -/
def Decimal.value (decimal : Decimal) : ℚ := decimal.digits * 10 ^ decimal.exponent

theorem ten_zpow_pos (power : Int) : (0 : ℚ) < 10 ^ power :=
  zpow_pos (by norm_num) power

theorem lt_ten_zpow_length (n : Nat) : (n : ℚ) < 10 ^ ((Nat.toDigits 10 n).length : Int) := by
  have length_pos : 0 < (Nat.toDigits 10 n).length :=
    List.length_pos_iff.mpr Nat.toDigits_ne_nil
  have bound := (Nat.length_toDigits_le_iff (by decide : 1 < 10) length_pos).mp (Nat.le_refl _)
  rw [zpow_natCast]
  exact_mod_cast bound

theorem ten_zpow_length_le {n : Nat} (positive : 0 < n) :
    (10 : ℚ) ^ ((Nat.toDigits 10 n).length - 1 : Int) ≤ n := by
  have length_pos : 0 < (Nat.toDigits 10 n).length :=
    List.length_pos_iff.mpr Nat.toDigits_ne_nil
  obtain ⟨fewer, length⟩ : ∃ fewer, (Nat.toDigits 10 n).length = fewer + 1 :=
    ⟨(Nat.toDigits 10 n).length - 1, by omega⟩
  have power : ((Nat.toDigits 10 n).length - 1 : Int) = fewer := by omega
  rw [power, zpow_natCast]
  have bound : 10 ^ fewer ≤ n := by
    cases fewer with
    | zero => exact positive
    | succ fewer =>
        by_contra less
        have short := (Nat.length_toDigits_le_iff (by decide : 1 < 10) (Nat.succ_pos fewer)).mpr
          (not_le.mp less)
        omega
  exact_mod_cast bound

/-- The interval of a positive double lies above the least double's lower half. -/
theorem half_least_le_of_contains {d : Double} (nonzero : d.magnitude ≠ 0) {x : ℚ}
    (inside : d.interval.Contains x) : 2 ^ (-1075 : Int) ≤ x := by
  have significand_pos := d.significand_pos nonzero
  have lower_ge : 2 ≤ d.interval.lower := by
    simp only [interval, Nat.pow_eq]
    split <;> omega
  have lower_ge' : (2 : ℚ) ≤ d.interval.lower := by exact_mod_cast lower_ge
  have scale_ge : -1076 ≤ d.interval.scale := by
    have exponent_ge := d.le_exponent
    simp only [interval, Nat.pow_eq]
    omega
  calc (2 : ℚ) ^ (-1075 : Int) = 2 * 2 ^ (-1076 : Int) := by
        rw [show (-1075 : Int) = 1 + -1076 by rfl, zpow_add₀ (by norm_num), zpow_one]
    _ ≤ d.interval.lower * 2 ^ d.interval.scale :=
        mul_le_mul lower_ge' (zpow_le_zpow_right₀ (by norm_num) scale_ge) (two_zpow_pos _).le
          (by linarith)
    _ ≤ x := inside.bounds.1

/-- The bound of the finite doubles has at most 309 digits. -/
theorem two_pow_le_ten_pow : 2 ^ 1024 ≤ 10 ^ 309 :=
  -- The powers are too large to be computed, so that an eleventh of each is compared.
  calc 2 ^ 1024 = 2 ^ (93 * 11 + 1) := congrArg (2 ^ ·) (by decide)
    _ = (2 ^ 93) ^ 11 * 2 := by rw [pow_succ 2 (93 * 11), pow_mul]
    _ ≤ (10 ^ 28) ^ 11 * 10 := Nat.mul_le_mul (Nat.pow_le_pow_left (by decide) 11) (by decide)
    _ = 10 ^ (28 * 11 + 1) := by rw [pow_succ 10 (28 * 11), pow_mul]
    _ = 10 ^ 309 := congrArg (10 ^ ·) (by decide)

/-- Half of the least positive double, `2 ^ -1075`, is above `10 ^ -325`. -/
theorem two_pow_lt_ten_pow : 2 ^ 1075 < 10 ^ 325 :=
  calc 2 ^ 1075 = 2 ^ (43 * 25) := congrArg (2 ^ ·) (by decide)
    _ = (2 ^ 43) ^ 25 := pow_mul 2 43 25
    _ < (10 ^ 13) ^ 25 := Nat.pow_lt_pow_left (by decide) (by decide)
    _ = 10 ^ (13 * 25) := (pow_mul 10 13 25).symm
    _ = 10 ^ 325 := congrArg (10 ^ ·) (by decide)

theorem lt_ten_zpow_of_contains {d : Double} (finite : d.isFinite = true) {x : ℚ}
    (inside : d.interval.Contains x) : x < 10 ^ (309 : Int) := by
  have exponent_le := d.exponent_le finite
  calc x < 2 ^ (d.exponent + 53) := lt_of_contains inside
    _ ≤ 2 ^ (1024 : Int) := zpow_le_zpow_right₀ (by norm_num) (by omega)
    _ ≤ 10 ^ (309 : Int) := by exact_mod_cast two_pow_le_ten_pow

theorem ten_zpow_lt_half_least : (10 : ℚ) ^ (-325 : Int) < 2 ^ (-1075 : Int) := by
  rw [zpow_neg, zpow_neg, inv_lt_inv₀ (ten_zpow_pos _) (two_zpow_pos _)]
  exact_mod_cast two_pow_lt_ten_pow

/-- A decimal in the interval of a double is read as that double, with the sign it is given. -/
theorem ofDecimal_eq {d : Double} (finite : d.isFinite = true) (nonzero : d.magnitude ≠ 0)
    {decimal : Decimal} (inside : d.interval.Contains decimal.value) (negative : Bool) :
    ofDecimal negative decimal.digits decimal.exponent = ofMagnitude negative d.magnitude := by
  obtain ⟨digits, exponent⟩ := decimal
  simp only [Decimal.value] at *
  have value_pos := pos_of_contains nonzero inside
  have digits_ne : digits ≠ 0 := by
    rintro rfl
    simp at value_pos
  have unit_pos := ten_zpow_pos exponent
  have notSmall : ¬ (Nat.toDigits 10 digits).length + exponent < -324 := by
    intro small
    have below : (digits : ℚ) * 10 ^ exponent < 2 ^ (-1075 : Int) :=
      calc (digits : ℚ) * 10 ^ exponent
          < 10 ^ ((Nat.toDigits 10 digits).length : Int) * 10 ^ exponent :=
            mul_lt_mul_of_pos_right (lt_ten_zpow_length digits) unit_pos
        _ = 10 ^ ((Nat.toDigits 10 digits).length + exponent) := (zpow_add₀ (by norm_num) _ _).symm
        _ ≤ 10 ^ (-325 : Int) := zpow_le_zpow_right₀ (by norm_num) (by omega)
        _ < 2 ^ (-1075 : Int) := ten_zpow_lt_half_least
    exact absurd below (not_lt.mpr (half_least_le_of_contains nonzero inside))
  have notLarge : ¬ 309 < (Nat.toDigits 10 digits).length + exponent := by
    intro large
    have above : (10 : ℚ) ^ (309 : Int) ≤ digits * 10 ^ exponent :=
      calc (10 : ℚ) ^ (309 : Int)
          ≤ 10 ^ ((Nat.toDigits 10 digits).length - 1 + exponent) :=
            zpow_le_zpow_right₀ (by norm_num) (by omega)
        _ = 10 ^ ((Nat.toDigits 10 digits).length - 1 : Int) * 10 ^ exponent :=
            zpow_add₀ (by norm_num) _ _
        _ ≤ digits * 10 ^ exponent :=
            mul_le_mul_of_nonneg_right (ten_zpow_length_le (Nat.pos_of_ne_zero digits_ne))
              unit_pos.le
    exact absurd above (not_le.mpr (lt_ten_zpow_of_contains finite inside))
  have quotient : ((digits * 10 ^ exponent.toNat : Nat) : ℚ) / (10 ^ (-exponent).toNat : Nat) =
      digits * 10 ^ exponent := by
    have cast := zpow_eq_div (by decide : 0 < 10) exponent
    rw [Nat.cast_ofNat] at cast
    rw [cast, Nat.cast_mul, mul_div_assoc]
  simp only [ofDecimal, Nat.pow_eq, digits_ne, notSmall, notLarge, or_self, if_false, ofRatio]
  congr 1
  apply magnitudeOfRatio_eq finite nonzero (Nat.pow_pos (by decide))
  rw [quotient]
  exact inside

/-! ## Decimals that are the double itself -/

/-- The number that a finite double stands for, without its sign. -/
def size (d : Double) : ℚ := d.significand * 2 ^ d.exponent

/-- A finite double lies in its own interval. -/
theorem contains_size {d : Double} (nonzero : d.magnitude ≠ 0) : d.interval.Contains d.size := by
  obtain ⟨lower, upper⟩ := center_mem nonzero
  have unit_pos := two_zpow_pos d.interval.scale
  have size_eq : d.size = d.interval.center * 2 ^ d.interval.scale := by
    rw [size, scale_zpow]
    simp only [interval, Nat.pow_eq]
    push_cast
    ring
  have lower_lt : d.interval.lower * 2 ^ d.interval.scale < d.size := by
    rw [size_eq]
    exact mul_lt_mul_of_pos_right (by exact_mod_cast lower) unit_pos
  have lt_upper : d.size < d.interval.upper * 2 ^ d.interval.scale := by
    rw [size_eq]
    exact mul_lt_mul_of_pos_right (by exact_mod_cast upper) unit_pos
  rw [Interval.Contains]
  split
  · exact ⟨lower_lt.le, lt_upper.le⟩
  · exact ⟨lower_lt, lt_upper⟩

end Double
end RecordQuery
