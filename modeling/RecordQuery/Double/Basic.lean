/-!
# Double-precision numbers

A double is its sixty-four IEEE bits.  Below the sign bit the bits of a number grow with its
magnitude, so `Double.key` reads them as a signed integer, and order and equality of two numbers
are those of their keys; zero has one key under both signs.  A NaN stands in no order to anything.
-/

namespace RecordQuery

/-- An IEEE binary64 number. -/
structure Double where
  /-- Sign, eleven bits of exponent and fifty-two of fraction, from the top. -/
  bits : UInt64
  deriving DecidableEq, Repr, Inhabited

namespace Double

/-- The bit that holds the sign. -/
def signBit : Nat := Nat.pow 2 63

/-- The magnitude bits of infinity: exponent all ones, fraction zero. -/
def infiniteMagnitude : Nat := 0x7FF0000000000000

/-- The number has its sign bit set. -/
def isNegative (d : Double) : Bool := signBit ≤ d.bits.toNat

/-- The bits without the sign. -/
def magnitude (d : Double) : Nat := d.bits.toNat % signBit

/-- The number with the given sign and magnitude bits. -/
def ofMagnitude (negative : Bool) (magnitude : Nat) : Double :=
  ⟨UInt64.ofNat (if negative then signBit + magnitude else magnitude)⟩

/-- The double is no number. -/
def isNaN (d : Double) : Bool := infiniteMagnitude < d.magnitude

/-- The double is an infinity of either sign. -/
def isInfinite (d : Double) : Bool := d.magnitude == infiniteMagnitude

/-- The double is neither an infinity nor a NaN. -/
def isFinite (d : Double) : Bool := d.magnitude < infiniteMagnitude

/-- The infinity of the given sign. -/
def infinity (negative : Bool) : Double := ofMagnitude negative infiniteMagnitude

/-- The NaN that is the result of reading a text. -/
def nan : Double := ⟨0x7FF8000000000000⟩

/-- The integer that orders numbers: the magnitude bits under the sign of the number. -/
def key (d : Double) : Int := if d.isNegative then -(d.magnitude : Int) else d.magnitude

/-- How two doubles stand in order; nothing if one of them is a NaN. -/
def compare? (a b : Double) : Option Ordering :=
  if a.isNaN || b.isNaN then none else some (compare a.key b.key)

/-- Numeric equality: both zeros are equal, and a NaN is equal to nothing. -/
def equal (a b : Double) : Bool := !a.isNaN && !b.isNaN && a.key == b.key

/-- The integer significand of a finite number. -/
def significand (d : Double) : Nat :=
  if d.magnitude < Nat.pow 2 52 then d.magnitude
  else Nat.pow 2 52 + d.magnitude % Nat.pow 2 52

/-- The power of two that multiplies the significand of a finite number. -/
def exponent (d : Double) : Int :=
  max (d.magnitude / Int.pow 2 52 : Int) 1 - 1075

/-- The number is a whole one: finite, and its fraction is zero. -/
def isWhole (d : Double) : Bool :=
  d.isFinite && (0 ≤ d.exponent || d.significand % Nat.pow 2 (-d.exponent).toNat == 0)

/-- The whole number that a finite double has on the left of its point. -/
def wholePart (d : Double) : Nat :=
  if 0 ≤ d.exponent then d.significand * Nat.pow 2 d.exponent.toNat
  else d.significand / Nat.pow 2 (-d.exponent).toNat

end Double
end RecordQuery
