import RecordQuery.Double.Notation
import RecordQuery.Double.Reader
import RecordQuery.Proofs.Double.Shortest
import RecordQuery.Proofs.Text.Digits

/-!
# Written doubles read back

A finite double is written with digits on both sides of a point, the whole ones by all their digits
and the others by their shortest decimal.  In both cases the digits are read as the double again.
-/

namespace RecordQuery
namespace Double

open Text

/-- Digits, a point and digits, which together are read as the double. -/
structure IsSpelling (d : Double) (body whole fraction : List Char) : Prop where
  /-- The point stands between the two runs of digits. -/
  body_eq : body = whole ++ '.' :: fraction
  /-- There is a digit before the point. -/
  whole_ne : whole ≠ []
  /-- Only digits stand before the point. -/
  isDigit_whole : ∀ c ∈ whole, c.isDigit = true
  /-- Only digits stand after the point. -/
  isDigit_fraction : ∀ c ∈ fraction, c.isDigit = true
  /-- The digits are rounded to the double. -/
  rounds : ofDecimal d.isNegative (Nat.ofDigitChars 10 (whole ++ fraction) 0) (-fraction.length) = d

/-- A decimal with a point is read by the digits on both sides. -/
theorem readUnsigned?_point (negative : Bool) {whole fraction : List Char} (whole_ne : whole ≠ [])
    (isDigit_whole : ∀ c ∈ whole, c.isDigit = true)
    (isDigit_fraction : ∀ c ∈ fraction, c.isDigit = true) :
    readUnsigned? negative (whole ++ '.' :: fraction) =
      some (ofDecimal negative (Nat.ofDigitChars 10 (whole ++ fraction) 0) (-fraction.length)) := by
  have point : Ends Char.isDigit ('.' :: fraction) := ends_cons.mpr rfl
  rw [readUnsigned?]
  simp only [takeWhile_append_of_ends isDigit_whole point,
    dropWhile_append_of_ends isDigit_whole point]
  have fraction_taken : fraction.takeWhile Char.isDigit = fraction :=
    List.takeWhile_eq_self_iff.mpr isDigit_fraction
  have fraction_dropped : fraction.dropWhile Char.isDigit = [] :=
    List.dropWhile_eq_nil_iff.mpr isDigit_fraction
  simp [fraction_taken, fraction_dropped, whole_ne, readExponent?]

theorem IsSpelling.mem_body {d : Double} {body whole fraction : List Char}
    (spelling : IsSpelling d body whole fraction) {c : Char} (member : c ∈ body) :
    c.isDigit = true ∨ c = '.' := by
  rw [spelling.body_eq, List.mem_append, List.mem_cons] at member
  rcases member with before | point | after
  · exact .inl (spelling.isDigit_whole c before)
  · exact .inr point
  · exact .inl (spelling.isDigit_fraction c after)

theorem IsSpelling.notMem_body {d : Double} {body whole fraction : List Char}
    (spelling : IsSpelling d body whole fraction) {c : Char} (digit : c.isDigit = false)
    (point : c ≠ '.') : c ∉ body := by
  intro member
  rcases spelling.mem_body member with isDigit | same
  · rw [digit] at isDigit
    cases isDigit
  · exact point same

theorem IsSpelling.readUnsigned? {d : Double} {body whole fraction : List Char}
    (spelling : IsSpelling d body whole fraction) : readUnsigned? d.isNegative body = some d := by
  rw [spelling.body_eq, readUnsigned?_point d.isNegative spelling.whole_ne spelling.isDigit_whole
    spelling.isDigit_fraction, spelling.rounds]

/-- A decimal in the interval of a double is read as the double. -/
theorem ofDecimal_eq_self {d : Double} (finite : d.isFinite = true) (nonzero : d.magnitude ≠ 0)
    {decimal : Decimal} (inside : d.interval.Contains decimal.value) :
    ofDecimal d.isNegative decimal.digits decimal.exponent = d := by
  rw [ofDecimal_eq finite nonzero inside, ofMagnitude_magnitude]

/-! ## Whole doubles -/

theorem wholePart_eq_size {d : Double} (whole : d.isWhole = true) : (d.wholePart : ℚ) = d.size := by
  simp only [isWhole, Nat.pow_eq, Bool.and_eq_true, Bool.or_eq_true, decide_eq_true_eq, beq_iff_eq] at whole
  rw [wholePart, size, Nat.pow_eq, Nat.pow_eq]
  split
  · rename_i shifted
    obtain ⟨power, exponent⟩ := Int.eq_ofNat_of_zero_le shifted
    rw [exponent, zpow_natCast]
    push_cast
    rfl
  · rename_i fractional
    have divides := whole.2.resolve_left fractional
    have power : d.exponent = -((-d.exponent).toNat : Int) := by omega
    have exact := Nat.div_mul_cancel (Nat.dvd_of_mod_eq_zero divides)
    rw [power, zpow_neg, zpow_natCast, ← div_eq_mul_inv, eq_div_iff (by positivity), neg_neg,
      Int.toNat_natCast]
    exact_mod_cast exact

theorem ofMagnitude_zero {d : Double} (zero : d.magnitude = 0) :
    ofMagnitude d.isNegative 0 = d := by
  rw [← zero, ofMagnitude_magnitude]

/-- A whole double is spelled by all its digits, a point and a zero. -/
theorem exists_wholeText_eq {d : Double} (whole : d.isWhole = true) :
    ∃ body digits, d.wholeText = (if d.isNegative then '-' :: body else body) ∧
      IsSpelling d body digits ['0'] := by
  have finite : d.isFinite = true := (Bool.and_eq_true_iff.mp whole).1
  refine ⟨_, Nat.toDigits 10 d.wholePart, rfl, rfl, Nat.toDigits_ne_nil, fun c member => ?_, ?_, ?_⟩
  · exact Nat.isDigit_of_mem_toDigits (by decide) (by decide) member
  · simp
  · have digits : Nat.ofDigitChars 10 (Nat.toDigits 10 d.wholePart ++ ['0']) 0 =
        d.wholePart * 10 := by
      rw [Nat.ofDigitChars_append, Nat.ofDigitChars_ten_toDigits]
      simp [Nat.ofDigitChars_cons, mul_comm]
    rw [digits]
    by_cases zero : d.magnitude = 0
    · have wholePart : d.wholePart = 0 := by
        have size_eq := wholePart_eq_size whole
        rw [size, significand_eq, if_pos (by omega), zero, Nat.cast_zero, zero_mul] at size_eq
        exact_mod_cast size_eq
      rw [wholePart]
      exact ofMagnitude_zero zero
    · have value : Decimal.value ⟨d.wholePart * 10, -1⟩ = d.size := by
        rw [← wholePart_eq_size whole, Decimal.value, zpow_neg_one]
        push_cast
        ring
      exact ofDecimal_eq_self finite zero (value ▸ contains_size zero)

/-! ## Other doubles -/

/-- The shortest decimal of a double with a fraction has a fraction: the only whole number that
could be in its interval is the double itself. -/
theorem exponent_neg_of_contains {d : Double} (finite : d.isFinite = true)
    (nonzero : d.magnitude ≠ 0) (fractional : d.isWhole = false) {decimal : Decimal}
    (inside : d.interval.Contains decimal.value) : decimal.exponent < 0 := by
  by_contra whole
  simp only [isWhole, Nat.pow_eq, finite, Bool.true_and, Bool.or_eq_false_iff, decide_eq_false_iff_not,
    beq_eq_false_iff_ne, not_le] at fractional
  obtain ⟨exponent_neg, remainder⟩ := fractional
  have value_eq : decimal.value = (decimal.digits * 10 ^ decimal.exponent.toNat : Nat) := by
    have power : decimal.exponent = decimal.exponent.toNat := by omega
    rw [Decimal.value, power, zpow_natCast, Int.toNat_natCast]
    push_cast
    rfl
  obtain ⟨below, above⟩ := near_of_contains nonzero inside
  have unit : (2 : ℚ) ^ d.exponent = 1 / (2 ^ (-d.exponent).toNat : Nat) := by
    have power : d.exponent = -((-d.exponent).toNat : Int) := by omega
    rw [power, zpow_neg, zpow_natCast, neg_neg, Int.toNat_natCast, one_div]
    push_cast
    rfl
  have parts_pos : (0 : ℚ) < (2 ^ (-d.exponent).toNat : Nat) := by
    exact_mod_cast Nat.two_pow_pos _
  rw [value_eq, unit, mul_one_div, div_le_iff₀ parts_pos] at below
  rw [value_eq, unit, mul_one_div, le_div_iff₀ parts_pos] at above
  generalize decimal.digits * 10 ^ decimal.exponent.toNat = count at below above
  have below' : 2 * d.significand ≤ 2 * (count * 2 ^ (-d.exponent).toNat) + 1 := by
    have cleared : 2 * (d.significand : ℚ) ≤ 2 * (count * (2 ^ (-d.exponent).toNat : Nat)) + 1 := by
      linarith
    exact_mod_cast cleared
  have above' : 2 * (count * 2 ^ (-d.exponent).toNat) ≤ 2 * d.significand + 1 := by
    have cleared : 2 * ((count : ℚ) * (2 ^ (-d.exponent).toNat : Nat)) ≤ 2 * d.significand + 1 := by
      linarith
    exact_mod_cast cleared
  have same : d.significand = count * 2 ^ (-d.exponent).toNat := by omega
  rw [same, Nat.mul_mod_left] at remainder
  exact remainder rfl

/-- A decimal with a fraction is laid out as its digits with a point among them or zeros before
them. -/
theorem exists_write_eq {decimal : Decimal} (fractional : decimal.exponent < 0) :
    ∃ whole fraction, positional.write decimal = whole ++ '.' :: fraction ∧ whole ≠ [] ∧
      (∀ c ∈ whole, c.isDigit = true) ∧ (∀ c ∈ fraction, c.isDigit = true) ∧
      Nat.ofDigitChars 10 (whole ++ fraction) 0 = decimal.digits ∧
      -(fraction.length : Int) = decimal.exponent := by
  have isDigit : ∀ c ∈ Nat.toDigits 10 decimal.digits, c.isDigit = true :=
    fun c => Nat.isDigit_of_mem_toDigits (by decide) (by decide)
  have number := Nat.ofDigitChars_ten_toDigits (n := decimal.digits)
  simp only [Layout.write, positional, Layout.within, and_true, if_neg (not_le.mpr fractional)]
  generalize Nat.toDigits 10 decimal.digits = digits at *
  split
  · rename_i among
    refine ⟨_, _, rfl, ?_, fun c member => isDigit c (List.mem_of_mem_take member),
      fun c member => isDigit c (List.mem_of_mem_drop member), ?_, ?_⟩
    · rw [Ne, List.take_eq_nil_iff]
      rintro (none | empty)
      · omega
      · simp [empty] at among
        omega
    · rw [List.take_append_drop]
      exact number
    · rw [List.length_drop]
      omega
  · rename_i before
    rw [if_pos (by omega)]
    refine ⟨['0'], _, rfl, List.cons_ne_nil _ _, List.forall_mem_singleton.mpr rfl,
      fun c member => ?_, ?_, ?_⟩
    · rcases List.mem_append.mp member with zero | digit
      · rw [(List.mem_replicate.mp zero).2]
        rfl
      · exact isDigit c digit
    · have zero : Nat.ofDigitChars 10 ['0'] 0 = 0 := rfl
      rw [Nat.ofDigitChars_append, Nat.ofDigitChars_append, zero]
      simpa using number
    · rw [List.length_append, List.length_replicate]
      omega

theorem magnitude_ne_zero {d : Double} (finite : d.isFinite = true)
    (fractional : d.isWhole = false) : d.magnitude ≠ 0 := by
  intro zero
  have significand : d.significand = 0 := by rw [significand_eq, if_pos (by omega), zero]
  simp [isWhole, finite, significand] at fractional

/-- A double with a fraction is spelled by its shortest decimal. -/
theorem exists_positional_eq {d : Double} (finite : d.isFinite = true)
    (fractional : d.isWhole = false) :
    ∃ body whole fraction, positional.text d = (if d.isNegative then '-' :: body else body) ∧
      IsSpelling d body whole fraction := by
  have nonzero := magnitude_ne_zero finite fractional
  have inside := contains_shortest nonzero .upward
  have exponent_neg := exponent_neg_of_contains finite nonzero fractional inside
  obtain ⟨whole, fraction, written, whole_ne, isDigit_whole, isDigit_fraction, digits, places⟩ :=
    exists_write_eq exponent_neg
  have finite' : d.magnitude < infiniteMagnitude := of_decide_eq_true finite
  have notNaN : d.isNaN = false := decide_eq_false (by omega)
  have notInfinite : d.isInfinite = false := beq_eq_false_iff_ne.mpr (by omega)
  refine ⟨positional.write (d.shortest .upward), whole, fraction, ?_, written, whole_ne,
    isDigit_whole, isDigit_fraction, ?_⟩
  · simp [Layout.text, notNaN, notInfinite, nonzero, positional]
  · rw [digits, places]
    exact ofDecimal_eq_self finite nonzero inside

/-! ## Infinities -/

theorem positional_text_infinite {d : Double} (infinite : d.isInfinite = true) :
    positional.text d = (if d.isNegative then '-' :: "inf".toList else "inf".toList) := by
  have magnitude : d.magnitude = infiniteMagnitude := by simpa [isInfinite] using infinite
  have notNaN : d.isNaN = false := by simp [isNaN, magnitude]
  simp [Layout.text, notNaN, infinite, positional]

theorem infinity_isNegative {d : Double} (infinite : d.isInfinite = true) :
    infinity d.isNegative = d := by
  have magnitude : d.magnitude = infiniteMagnitude := by simpa [isInfinite] using infinite
  rw [infinity, ← magnitude, ofMagnitude_magnitude]

end Double
end RecordQuery
