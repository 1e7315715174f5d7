import RecordQuery.Double.Basic

/-!
# Rounding to a double

`Double.ofRatio` is the double nearest to a quotient of natural numbers, with ties to the even
significand and with infinity beyond the largest finite one.  It is computed in exact integer
arithmetic: the exponent is chosen such that the rounded significand has fifty-three bits, or is
the least exponent there is, and a significand rounded up to the next power of two carries into
the exponent field by itself.  Integers and decimals are read through it.
-/

namespace RecordQuery
namespace Double

/-- The quotient rounded to the nearest natural number, a tie to the even one. -/
def roundQuotient (numerator denominator : Nat) : Nat :=
  let quotient := numerator / denominator
  let remainder := numerator % denominator
  if 2 * remainder < denominator then quotient
  else if denominator < 2 * remainder then quotient + 1
  else quotient + quotient % 2

/-- The quotient divided by a power of two and rounded to the nearest natural number. -/
def roundScaled (numerator denominator : Nat) (exponent : Int) : Nat :=
  roundQuotient (numerator * Nat.pow 2 (-exponent).toNat) (denominator * Nat.pow 2 exponent.toNat)

/-- The power of two that leaves a significand of fifty-three bits, or the least power of two
that a double can have. -/
def scaleOf (numerator denominator : Nat) : Int :=
  let estimate := (numerator.log2 : Int) - denominator.log2
  let reaches := denominator * Nat.pow 2 estimate.toNat ≤ numerator * Nat.pow 2 (-estimate).toNat
  max ((if reaches then estimate else estimate - 1) - 52) (-1074)

/-- The magnitude bits of the double nearest to a quotient. -/
def magnitudeOfRatio (numerator denominator : Nat) : Nat :=
  if numerator = 0 then 0
  else
    let scale := scaleOf numerator denominator
    let significand := roundScaled numerator denominator scale
    min ((scale + 1074).toNat * Nat.pow 2 52 + significand) infiniteMagnitude

/-- The double nearest to a signed quotient of natural numbers. -/
def ofRatio (negative : Bool) (numerator denominator : Nat) : Double :=
  ofMagnitude negative (magnitudeOfRatio numerator denominator)

/-- The double nearest to an integer. -/
def ofInt (n : Int) : Double := ofRatio (n < 0) n.natAbs 1

/-- The double nearest to a decimal with the given digits before its power of ten.

A decimal of at least `10 ^ 309` is beyond the largest double and one below `10 ^ -324` is nearer
to zero than to the least one, so no power of ten outside that range is ever computed. -/
def ofDecimal (negative : Bool) (digits : Nat) (exponent : Int) : Double :=
  let leading := (Nat.toDigits 10 digits).length + exponent
  if digits = 0 ∨ leading < -324 then ofMagnitude negative 0
  else if 309 < leading then infinity negative
  else ofRatio negative (digits * Nat.pow 10 exponent.toNat) (Nat.pow 10 (-exponent).toNat)

end Double
end RecordQuery
