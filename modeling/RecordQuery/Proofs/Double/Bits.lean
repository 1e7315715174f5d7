import Mathlib.Algebra.Group.Int.Defs
import Mathlib.Algebra.Group.Nat.Defs
import RecordQuery.Double.Basic

/-!
# The fields of a double

A double is its sign and its magnitude bits, and the magnitude bits of a finite one are the
exponent and the significand packed by addition: a significand that grows to the next power of two
carries into the exponent.
-/

namespace RecordQuery
namespace Double

/-! ## Sign and magnitude -/

theorem signBit_eq : signBit = 2 ^ 63 := rfl

theorem magnitude_lt (d : Double) : d.magnitude < signBit :=
  Nat.mod_lt _ (by decide)

theorem toNat_bits_ofMagnitude (negative : Bool) {magnitude : Nat} (fits : magnitude < signBit) :
    (ofMagnitude negative magnitude).bits.toNat =
      if negative then signBit + magnitude else magnitude := by
  have small : (if negative then signBit + magnitude else magnitude) < 2 ^ 64 := by
    rw [signBit_eq] at fits ⊢
    split <;> omega
  exact UInt64.toNat_ofNat_of_lt' small

theorem magnitude_ofMagnitude (negative : Bool) {magnitude : Nat} (fits : magnitude < signBit) :
    (ofMagnitude negative magnitude).magnitude = magnitude := by
  rw [Double.magnitude]
  rw [toNat_bits_ofMagnitude negative fits]
  cases negative with
  | false => exact Nat.mod_eq_of_lt fits
  | true => simp [Nat.mod_eq_of_lt fits]

/-- A double is made of its sign and its magnitude. -/
theorem ofMagnitude_magnitude (d : Double) : ofMagnitude d.isNegative d.magnitude = d := by
  have bound := d.bits.toNat_lt
  have same : (ofMagnitude d.isNegative d.magnitude).bits.toNat = d.bits.toNat := by
    rw [toNat_bits_ofMagnitude d.isNegative d.magnitude_lt]
    rw [Double.magnitude, signBit_eq]
    split
    · rename_i negative
      have large : 2 ^ 63 ≤ d.bits.toNat := of_decide_eq_true negative
      omega
    · rename_i positive
      have small : ¬ 2 ^ 63 ≤ d.bits.toNat := fun large => positive (decide_eq_true large)
      omega
  exact congrArg Double.mk (UInt64.toNat_inj.mp same)

/-! ## Exponent and significand -/

theorem significand_eq (d : Double) : d.significand =
    if d.magnitude < 2 ^ 52 then d.magnitude else 2 ^ 52 + d.magnitude % 2 ^ 52 := rfl

theorem exponent_eq (d : Double) : d.exponent = max (d.magnitude / 2 ^ 52 : Int) 1 - 1075 := rfl

theorem magnitude_eq (d : Double) :
    d.magnitude = (d.exponent + 1074).toNat * 2 ^ 52 + d.significand := by
  rw [exponent_eq, significand_eq]
  split
  · rename_i subnormal
    have field : d.magnitude / 2 ^ 52 = 0 := Nat.div_eq_of_lt subnormal
    have exponent : (max ((d.magnitude : Int) / 2 ^ 52) 1 - 1075 + 1074).toNat = 0 := by omega
    rw [exponent]
    omega
  · rename_i normal
    have exponent : (max ((d.magnitude : Int) / 2 ^ 52) 1 - 1075 + 1074).toNat =
        d.magnitude / 2 ^ 52 - 1 := by omega
    rw [exponent]
    omega

theorem significand_lt (d : Double) : d.significand < 2 ^ 53 := by
  rw [significand_eq]
  split <;> omega

theorem le_exponent (d : Double) : -1074 ≤ d.exponent := by
  rw [exponent_eq]
  omega

/-- The significand has fifty-three bits unless the exponent is the least of all. -/
theorem significand_ge (d : Double) (large : -1074 < d.exponent) : 2 ^ 52 ≤ d.significand := by
  rw [exponent_eq] at large
  rw [significand_eq]
  split <;> omega

theorem exponent_le (d : Double) (finite : d.isFinite = true) : d.exponent ≤ 971 := by
  have bound : d.magnitude < infiniteMagnitude := by simpa [isFinite] using finite
  unfold infiniteMagnitude at bound
  rw [exponent_eq]
  omega

theorem significand_pos (d : Double) (nonzero : d.magnitude ≠ 0) : 0 < d.significand := by
  rw [significand_eq]
  split <;> omega

end Double
end RecordQuery
