import RecordQuery.Proofs.Double.Overflow
import RecordQuery.Proofs.Value.Refusal

/-!
# Integer literals

Digits after an optional sign are no date, no instant and no time, so they are read as a number.  As
they have neither a point nor an exponent, the number is an int where sixty-four bits hold it.  It is
tried as a double before, for the sake of the words for infinities and NaN: so digits beyond the
doubles are read as an infinity, while all others beyond sixty-four bits are refused.
-/

namespace RecordQuery

open Text

/-- The text is one decimal digit or more, after a sign or none, and stands for the integer. -/
inductive Text.SpellsInteger : List Char → Int → Prop where
  | unsigned {digits : List Char} : digits ≠ [] → (∀ c ∈ digits, c.isDigit = true) →
      SpellsInteger digits (Nat.ofDigitChars 10 digits 0)
  | plus {digits : List Char} : digits ≠ [] → (∀ c ∈ digits, c.isDigit = true) →
      SpellsInteger ('+' :: digits) (Nat.ofDigitChars 10 digits 0)
  | minus {digits : List Char} : digits ≠ [] → (∀ c ∈ digits, c.isDigit = true) →
      SpellsInteger ('-' :: digits) (-Nat.ofDigitChars 10 digits 0)

namespace Text.SpellsInteger

variable {text : List Char} {n : Int}

/-- What the readers of numbers make of the sign. -/
theorem exists_readSign_eq (spells : SpellsInteger text n) :
    ∃ negative digits, Double.readSign text = (negative, digits) ∧ digits ≠ [] ∧
      (∀ c ∈ digits, c.isDigit = true) ∧
        n = if negative then -(Nat.ofDigitChars 10 digits 0 : Int) else Nat.ofDigitChars 10 digits 0 := by
  cases spells with
  | unsigned nonempty decimal =>
      refine ⟨false, _, Double.readSign_of_isDigit ?_, nonempty, decimal, rfl⟩
      obtain ⟨c, tail, rfl⟩ := List.exists_cons_of_ne_nil nonempty
      exact ⟨c, tail, rfl, decimal c List.mem_cons_self⟩
  | plus nonempty decimal => exact ⟨false, _, rfl, nonempty, decimal, rfl⟩
  | minus nonempty decimal => exact ⟨true, _, rfl, nonempty, decimal, rfl⟩

theorem isDigit_of_mem_tail (spells : SpellsInteger text n) :
    ∀ c ∈ text.tail, c.isDigit = true := by
  cases spells with
  | unsigned _ decimal => exact fun c member => decimal c (List.mem_of_mem_tail member)
  | plus _ decimal => exact decimal
  | minus _ decimal => exact decimal

theorem isDigit_or_sign_of_mem (spells : SpellsInteger text n) :
    ∀ c ∈ text, c.isDigit = true ∨ c = '+' ∨ c = '-' := by
  cases spells with
  | unsigned _ decimal => exact fun c member => .inl (decimal c member)
  | plus _ decimal => exact List.forall_mem_cons.mpr ⟨by decide, fun c member => .inl (decimal c member)⟩
  | minus _ decimal => exact List.forall_mem_cons.mpr ⟨by decide, fun c member => .inl (decimal c member)⟩

theorem ne_nil (spells : SpellsInteger text n) : text ≠ [] := by
  cases spells with
  | unsigned nonempty _ => exact nonempty
  | plus | minus => exact List.cons_ne_nil _ _

/-- Another character than a digit or a sign does not stand in the text. -/
theorem notMem (spells : SpellsInteger text n) {c : Char} (noDigit : c.isDigit = false)
    (noSign : c ≠ '+' ∧ c ≠ '-') : c ∉ text := by
  intro member
  rcases spells.isDigit_or_sign_of_mem c member with digit | plus | minus
  · rw [digit] at noDigit
    cases noDigit
  · exact noSign.1 plus
  · exact noSign.2 minus

end Text.SpellsInteger

/-- The text of an integer spells it. -/
theorem Text.spellsInteger_ofInt (n : Int) : SpellsInteger (ofInt n) n := by
  have nonempty : Nat.toDigits 10 n.natAbs ≠ [] := Nat.toDigits_ne_nil
  have decimal : ∀ c ∈ Nat.toDigits 10 n.natAbs, c.isDigit = true :=
    fun c => Nat.isDigit_of_mem_toDigits (by decide) (by decide)
  rw [ofInt]
  split
  next negative =>
    have spells := SpellsInteger.minus nonempty decimal
    rwa [Nat.ofDigitChars_ten_toDigits, Int.ofNat_natAbs_of_nonpos negative.le, neg_neg] at spells
  next positive =>
    have spells := SpellsInteger.unsigned nonempty decimal
    rwa [Nat.ofDigitChars_ten_toDigits, Int.natAbs_of_nonneg (not_lt.mp positive)] at spells

namespace Value

variable {text : List Char} {n : Int}

theorem readInt?_of_spellsInteger (spells : SpellsInteger text n) : readInt? text = some n := by
  obtain ⟨negative, digits, sign, nonempty, decimal, rfl⟩ := spells.exists_readSign_eq
  have all : digits.all Char.isDigit = true := List.all_eq_true.mpr decimal
  simp only [readInt?, sign, all, List.isEmpty_eq_false_iff.mpr nonempty, Bool.not_true,
    Bool.or_self, Bool.false_eq_true, if_false]

/-- As a double, the digits are the nearest one to the integer. -/
theorem read?_of_spellsInteger (spells : SpellsInteger text n) :
    ∃ negative, Double.read? text = some (Double.ofDecimal negative n.natAbs 0) ∧
      (n ≠ 0 → negative = decide (n < 0)) := by
  obtain ⟨negative, digits, sign, nonempty, decimal, value⟩ := spells.exists_readSign_eq
  have noWord : ∀ c, digits.head? = some c → c.toLower ≠ 'i' ∧ c.toLower ≠ 'n' := by
    intro c head
    have digit := decimal c (List.mem_of_head? head)
    exact ⟨toLower_ne_of_isDigit digit (by decide), toLower_ne_of_isDigit digit (by decide)⟩
  have whole := Double.readUnsigned?_whole negative decimal (ends_nil _) (by simp)
  rw [List.append_nil, if_neg nonempty] at whole
  have size : n.natAbs = Nat.ofDigitChars 10 digits 0 := by
    rw [value]
    split <;> omega
  refine ⟨negative, ?_, fun nonzero => ?_⟩
  · rw [Double.read?_eq_readUnsigned? sign noWord, whole, size]
    rfl
  · cases negative with
    | true =>
        rw [if_pos rfl] at value
        exact (decide_eq_true (by omega)).symm
    | false =>
        rw [if_neg Bool.false_ne_true] at value
        exact (decide_eq_false (by omega)).symm

/-- Digits after an optional sign stand for the int that they spell, if sixty-four bits hold it, and
for an infinity beyond the doubles; between them they stand for nothing. -/
theorem ofScalar?_of_spellsInteger (spells : SpellsInteger text n) :
    ofScalar? text =
      if -2 ^ 63 ≤ n ∧ n < 2 ^ 63 then some (.int (Int64.ofInt n))
      else if Double.overflow ≤ n.natAbs then some (.double (Double.infinity (n < 0)))
      else none := by
  have noDash : '-' ∉ text.tail := fun member =>
    absurd (spells.isDigit_of_mem_tail _ member) (by decide)
  have noColon : ':' ∉ text := spells.notMem rfl (by decide)
  have plain : (text.any fun c => c == '.' || c == 'e' || c == 'E') = false := by
    rw [List.any_eq_false]
    intro c member marked
    simp only [Bool.or_eq_true, beq_iff_eq] at marked
    rcases marked with (rfl | rfl) | rfl
    · exact spells.notMem rfl (by decide) member
    · exact spells.notMem rfl (by decide) member
    · exact spells.notMem rfl (by decide) member
  obtain ⟨negative, double, sign⟩ := read?_of_spellsInteger spells
  have bounds : Int64.minValue.toInt = -2 ^ 63 ∧ Int64.maxValue.toInt = 2 ^ 63 - 1 := by decide
  have held : int64? n = if -2 ^ 63 ≤ n ∧ n < 2 ^ 63 then some (Int64.ofInt n) else none := by
    rw [int64?, bounds.1, bounds.2]
    exact if_congr (by omega) rfl rfl
  have wide : 2 ^ 64 ≤ Double.overflow := Double.two_pow_le_overflow (by decide)
  rw [ofScalar?_eq_ofNumber? noDash noColon]
  simp only [ofNumber?, plain, double, readInt?_of_spellsInteger spells, Bool.false_eq_true, if_false,
    Option.bind_some, held]
  by_cases finite : n.natAbs < Double.overflow
  · have noInfinity := (Double.isFinite_ofDecimal_iff negative n.natAbs).mpr finite
    rw [Option.filter_some, noInfinity, if_neg (not_le.mpr finite)]
    simp only [Bool.not_true, Bool.false_eq_true, if_false]
    split <;> rfl
  · have large : Double.overflow ≤ n.natAbs := not_lt.mp finite
    have infinite := (Double.isFinite_ofDecimal_iff negative n.natAbs).not.mpr finite
    have outside : ¬ (-2 ^ 63 ≤ n ∧ n < 2 ^ 63) := by omega
    rw [Option.filter_some, eq_false_of_ne_true infinite, if_pos (by decide),
      Double.ofDecimal_of_overflow negative large, sign (by omega)]
    simp only [if_neg outside, if_pos large]

end Value
end RecordQuery
