/-!
# Digits

Numbers in text: reading a run of decimal digits, reading a number in another base, and writing a
number with a least count of digits.
-/

namespace RecordQuery
namespace Text

/-- The value of a digit in bases up to sixteen, letters in either case. -/
def digitValue (c : Char) : Option Nat :=
  if '0' ≤ c ∧ c ≤ '9' then some (c.toNat - '0'.toNat)
  else if 'a' ≤ c ∧ c ≤ 'f' then some (c.toNat - 'a'.toNat + 10)
  else if 'A' ≤ c ∧ c ≤ 'F' then some (c.toNat - 'A'.toNat + 10)
  else none

/-- The number that a text of digits stands for in a base of at most sixteen; a text with another
character in it, or with none at all, is no number. -/
def readNat? (base : Nat) (text : List Char) : Option Nat :=
  if text.isEmpty then none
  else
    text.foldlM (fun sum c => do
      let digit ← digitValue c
      guard (digit < base)
      return sum * base + digit) 0

/-- A run of at least `least` and at most `most` decimal digits at the start of the text, and the
text after it. -/
def readDigits? (least : Nat) (most : Option Nat) (text : List Char) :
    Option (Nat × List Char) :=
  let window := match most with
    | some most => text.take most
    | none => text
  let digits := window.takeWhile Char.isDigit
  if least ≤ digits.length then
    some (Nat.ofDigitChars 10 digits 0, text.drop digits.length)
  else
    none

/-- The decimal digits of a number, after zeros up to the given width. -/
def padded (width n : Nat) : List Char :=
  let digits := Nat.toDigits 10 n
  List.replicate (width - digits.length) '0' ++ digits

/-- An integer in decimal, negative ones after a minus sign. -/
def ofInt (n : Int) : List Char :=
  if n < 0 then '-' :: Nat.toDigits 10 n.natAbs else Nat.toDigits 10 n.natAbs

end Text
end RecordQuery
