import RecordQuery.Double.Rounding
import RecordQuery.Text.Digits

/-!
# Reading doubles

A double is written in decimal, with an optional sign, an optional point with digits on at least
one side of it, and an optional exponent; or it is one of the words `inf`, `infinity` and `nan` in
any case, after an optional sign.  The value is the nearest double to the decimal.
-/

namespace RecordQuery
namespace Double

/-- A leading sign, true for minus, and the text after it. -/
def readSign : List Char → Bool × List Char
  | '-' :: rest => (true, rest)
  | '+' :: rest => (false, rest)
  | text => (false, text)

/-- The exponent that a decimal ends with: nothing, or the letter `e` in either case with a signed
run of digits up to the end. -/
def readExponent? : List Char → Option Int
  | [] => some 0
  | c :: rest =>
    if c = 'e' ∨ c = 'E' then
      let (negative, digits) := readSign rest
      if digits.isEmpty || !digits.all Char.isDigit then none
      else
        let exponent : Int := Nat.ofDigitChars 10 digits 0
        some (if negative then -exponent else exponent)
    else
      none

/-- An unsigned decimal. -/
def readUnsigned? (negative : Bool) (text : List Char) : Option Double := do
  let whole := text.takeWhile Char.isDigit
  let afterWhole := text.dropWhile Char.isDigit
  let (fraction, tail) :=
    match afterWhole with
    | '.' :: rest => (rest.takeWhile Char.isDigit, rest.dropWhile Char.isDigit)
    | rest => ([], rest)
  if whole.isEmpty && fraction.isEmpty then none
  else
    let exponent ← readExponent? tail
    let digits := Nat.ofDigitChars 10 (whole ++ fraction) 0
    return ofDecimal negative digits (exponent - fraction.length)

/-- The double that a text stands for, if it stands for one. -/
def read? (text : List Char) : Option Double :=
  let (negative, body) := readSign text
  let word := String.ofList (body.map Char.toLower)
  if word = "inf" ∨ word = "infinity" then some (infinity negative)
  else if word = "nan" then some nan
  else readUnsigned? negative body

end Double
end RecordQuery
