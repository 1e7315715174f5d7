import RecordQuery.Double.Basic

/-!
# Shortest decimals

The decimal written for a double is the one with the fewest digits that still rounds to it, and of
those the nearest.  The reals that round to a double form an interval around it, closed exactly
when the significand is even.  `Double.shortest` looks on the grids of multiples of a power of ten,
coarsest first, for one of the two neighbours of the double that lies in that interval; all
quantities are natural numbers over one common denominator.
-/

namespace RecordQuery
namespace Double

/-- A natural number times a power of ten. -/
structure Decimal where
  /-- The significant digits as a number. -/
  digits : Nat
  /-- The power of ten that multiplies them. -/
  exponent : Int
  deriving DecidableEq, Repr

/-- Which of two decimals is taken that are equally near. -/
inductive Tie where
  /-- The larger one. -/
  | upward
  /-- The one whose last digit is even. -/
  | toEven
  deriving DecidableEq, Repr

/-- A double and the ends of its rounding interval, in quarters of its last place. -/
structure Interval where
  /-- The lower end. -/
  lower : Nat
  /-- The double itself. -/
  center : Nat
  /-- The upper end. -/
  upper : Nat
  /-- The ends themselves round to the double. -/
  closed : Bool
  /-- The power of two that all three are multiplied with. -/
  scale : Int
  deriving DecidableEq, Repr

/-- The rounding interval of a positive finite double.  Below a power of two the spacing of doubles
is half of what it is above, unless that power is the least of all. -/
def interval (d : Double) : Interval where
  lower :=
    if d.significand = Nat.pow 2 52 ∧ -1074 < d.exponent then 4 * d.significand - 1
    else 4 * d.significand - 2
  center := 4 * d.significand
  upper := 4 * d.significand + 2
  closed := d.significand % 2 = 0
  scale := d.exponent - 2

namespace Interval

/-- The multiple `count · step` lies in the interval whose ends are numbers over the same unit. -/
def holds (ends : Interval) (unit step count : Nat) : Bool :=
  let point := count * step
  if ends.closed then ends.lower * unit ≤ point && point ≤ ends.upper * unit
  else ends.lower * unit < point && point < ends.upper * unit

/-- The decimal with the given power of ten that lies in the interval and is nearest to its
center, if one does. -/
def onGrid? (ends : Interval) (tie : Tie) (power : Int) : Option Decimal :=
  let unit := Nat.pow 2 ends.scale.toNat * Nat.pow 10 (-power).toNat
  let step := Nat.pow 2 (-ends.scale).toNat * Nat.pow 10 power.toNat
  let below := ends.center * unit / step
  let remainder := ends.center * unit % step
  let preferAbove : Bool :=
    if 2 * remainder = step then
      match tie with
      | .upward => true
      | .toEven => below % 2 == 1
    else
      step < 2 * remainder
  match ends.holds unit step below, ends.holds unit step (below + 1) with
  | true, true => some ⟨if preferAbove then below + 1 else below, power⟩
  | true, false => some ⟨below, power⟩
  | false, true => some ⟨below + 1, power⟩
  | false, false => none

/-- The first decimal found in the interval on the grids from a power of ten downward. -/
def search (ends : Interval) (tie : Tie) : Nat → Int → Option Decimal
  | 0, _ => none
  | fuel + 1, power => (ends.onGrid? tie power).or (search ends tie fuel (power - 1))

end Interval

/-- The shortest decimal that rounds to a positive finite double.

The search starts above the leading digit, where no decimal but zero is small enough, and ends at
the latest on the grid of the least power of two, on which the double itself lies. -/
def shortest (d : Double) (tie : Tie) : Decimal :=
  let ends := d.interval
  let leadingBit := (ends.center.log2 : Int) + ends.scale
  let start := leadingBit * 30103 / 100000 + 3
  let grids := (start - min ends.scale 0).toNat + 1
  (ends.search tie grids start).getD ⟨0, 0⟩

end Double
end RecordQuery
