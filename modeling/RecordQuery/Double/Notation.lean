import RecordQuery.Double.Shortest
import RecordQuery.Text.Digits

/-!
# Written doubles

Two forms of a double are written.  The positional form never has an exponent and has a point only
before a fraction.  The scientific form always has a point or an exponent: it is positional while
the point falls among the first sixteen places or fewer than five zeros follow it, and otherwise
has one digit before the point.  Both write the shortest digits; a value that is halfway between
two equally short ones goes up in the first form and to the even digit in the second.
-/

namespace RecordQuery
namespace Double

/-- How digits are laid out around the point. -/
structure Layout where
  /-- Which of two equally near digit strings is written. -/
  tie : Tie
  /-- The largest count of digits before the point; none if there is no limit. -/
  mostPlaces : Option Nat
  /-- The largest count of zeros between the point and the first digit; none for no limit. -/
  mostZeros : Option Nat
  /-- What follows the digits of a whole number. -/
  wholeEnding : List Char
  /-- The text of a NaN. -/
  nan : List Char
  /-- The text of the positive infinity. -/
  infinity : List Char

/-- Digits and point alone, as values are listed and queries are written. -/
def positional : Layout where
  tie := .upward
  mostPlaces := none
  mostZeros := none
  wholeEnding := []
  nan := "NaN".toList
  infinity := "inf".toList

/-- A point or an exponent in every number, as numbers of a document are written. -/
def scientific : Layout where
  tie := .toEven
  mostPlaces := some 16
  mostZeros := some 4
  wholeEnding := ".0".toList
  nan := ".nan".toList
  infinity := ".inf".toList

namespace Layout

/-- The count stays within the limit, if there is one. -/
def within (count : Int) : Option Nat → Bool
  | none => true
  | some limit => count ≤ limit

/-- A shortest decimal laid out around its point. -/
def write (layout : Layout) (decimal : Decimal) : List Char :=
  let digits := Nat.toDigits 10 decimal.digits
  let places := digits.length + decimal.exponent
  if 0 ≤ decimal.exponent ∧ within places layout.mostPlaces then
    digits ++ List.replicate decimal.exponent.toNat '0' ++ layout.wholeEnding
  else if 0 < places ∧ within places layout.mostPlaces then
    digits.take places.toNat ++ '.' :: digits.drop places.toNat
  else if places ≤ 0 ∧ within (-places) layout.mostZeros then
    '0' :: '.' :: (List.replicate (-places).toNat '0' ++ digits)
  else
    let fraction := digits.drop 1
    let point := if fraction.isEmpty then [] else '.' :: fraction
    digits.take 1 ++ point ++ 'e' :: Text.ofInt (places - 1)

/-- The text of a double. -/
def text (layout : Layout) (d : Double) : List Char :=
  if d.isNaN then layout.nan
  else
    let body :=
      if d.isInfinite then layout.infinity
      else if d.magnitude = 0 then '0' :: layout.wholeEnding
      else layout.write (d.shortest layout.tie)
    if d.isNegative then '-' :: body else body

end Layout

/-- A whole double with all its digits and one zero after the point. -/
def wholeText (d : Double) : List Char :=
  let body := Nat.toDigits 10 d.wholePart ++ ".0".toList
  if d.isNegative then '-' :: body else body

end Double
end RecordQuery
