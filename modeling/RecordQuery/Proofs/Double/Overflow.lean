import RecordQuery.Proofs.Double.Monotone

/-!
# Integers beyond the doubles

A whole number that is written without a point is rounded like the quotient that it is, however many
digits it has.  Rounding keeps the order, so the whole numbers that are rounded to an infinity are
those from one number on: `Double.overflow`, which lies half way between the largest finite double
and the next power of two.
-/

namespace RecordQuery
namespace Double

/-- The least whole number that is rounded to an infinity. -/
def overflow : Nat := 2 ^ 1024 - 2 ^ 970

theorem overflow_le_ten_pow : overflow ≤ 10 ^ 309 :=
  (Nat.sub_le _ _).trans two_pow_le_ten_pow

theorem two_pow_le_two_pow_sub {k m n : Nat} (within : k ≤ m) (less : m < n) :
    2 ^ k ≤ 2 ^ n - 2 ^ m := by
  have lower : 2 ^ k ≤ 2 ^ m := Nat.pow_le_pow_right Nat.two_pos within
  have half : 2 ^ m * 2 ≤ 2 ^ n :=
    calc 2 ^ m * 2 = 2 ^ (m + 1) := (Nat.pow_succ ..).symm
      _ ≤ 2 ^ n := Nat.pow_le_pow_right Nat.two_pos less
  omega

theorem two_pow_le_overflow {n : Nat} (less : n ≤ 970) : 2 ^ n ≤ overflow :=
  two_pow_le_two_pow_sub less (by decide)

/-- Rounding reaches the infinity at the bound and not one number before it. -/
theorem magnitudeOfRatio_overflow :
    magnitudeOfRatio overflow 1 = infiniteMagnitude ∧
      magnitudeOfRatio (overflow - 1) 1 < infiniteMagnitude := by
  decide +kernel

theorem magnitudeOfRatio_lt_iff (n : Nat) :
    magnitudeOfRatio n 1 < infiniteMagnitude ↔ n < overflow := by
  constructor
  · intro finite
    by_contra large
    have reaches := magnitudeOfRatio_mono Nat.one_pos (not_lt.mp large)
    rw [magnitudeOfRatio_overflow.1] at reaches
    omega
  · intro small
    have below : n ≤ overflow - 1 := Nat.le_sub_one_of_lt small
    calc magnitudeOfRatio n 1
        ≤ magnitudeOfRatio (overflow - 1) 1 := magnitudeOfRatio_mono Nat.one_pos below
      _ < infiniteMagnitude := magnitudeOfRatio_overflow.2

/-- The shortcut for numbers of very many digits gives what rounding gives. -/
theorem ofDecimal_whole (negative : Bool) (n : Nat) :
    ofDecimal negative n 0 = ofMagnitude negative (magnitudeOfRatio n 1) := by
  by_cases zero : n = 0
  · simp [ofDecimal, magnitudeOfRatio, zero]
  have notSmall : ¬ ((Nat.toDigits 10 n).length : Int) < -324 := by omega
  by_cases long : 309 < ((Nat.toDigits 10 n).length : Int)
  · have large : ¬ n < 10 ^ 309 := fun small => by
      have length := (Nat.length_toDigits_le_iff (by decide : 1 < 10) (by decide)).mpr small
      omega
    have beyond : ¬ n < overflow := fun small => large (small.trans_le overflow_le_ten_pow)
    have infinite : magnitudeOfRatio n 1 = infiniteMagnitude :=
      (magnitudeOfRatio_le n 1).antisymm (not_lt.mp ((magnitudeOfRatio_lt_iff n).not.mpr beyond))
    simp only [ofDecimal, zero, add_zero, notSmall, long, or_self, if_false, if_true, infinity,
      infinite]
  · simp only [ofDecimal, Nat.pow_eq, zero, add_zero, notSmall, long, or_self, if_false, ofRatio,
      Int.toNat_zero, neg_zero, pow_zero, mul_one]

/-- A whole number is read as a finite double below the bound. -/
theorem isFinite_ofDecimal_iff (negative : Bool) (n : Nat) :
    (ofDecimal negative n 0).isFinite = true ↔ n < overflow := by
  have fits : magnitudeOfRatio n 1 < signBit := (magnitudeOfRatio_le n 1).trans_lt (by decide)
  rw [ofDecimal_whole, isFinite, magnitude_ofMagnitude negative fits, decide_eq_true_eq,
    magnitudeOfRatio_lt_iff]

/-- From the bound on, a whole number is read as an infinity. -/
theorem ofDecimal_of_overflow (negative : Bool) {n : Nat} (large : overflow ≤ n) :
    ofDecimal negative n 0 = infinity negative := by
  have infinite : magnitudeOfRatio n 1 = infiniteMagnitude :=
    (magnitudeOfRatio_le n 1).antisymm
      (not_lt.mp ((magnitudeOfRatio_lt_iff n).not.mpr (not_lt.mpr large)))
  rw [ofDecimal_whole, infinite, infinity]

end Double
end RecordQuery
