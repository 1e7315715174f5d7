import RecordQuery.Proofs.Predicate.Refusal
import RecordQuery.Proofs.Value.Integer

/-!
# Queries for one unquoted operand

A query that compares a field for equality with an unquoted operand has the result of reading the
operand: the comparison with what the operand stands for, or a fault at the operand.  So the whole
query says how an integer is read, however many digits it has.
-/

namespace RecordQuery

open Text Grammar RecordQuery.Parser

namespace Parser

/-- The result of reading an unquoted operand up to the end of a query, given what it stands for. -/
def scalarReading (scalar : List Char) : Option Value → Except Fault Value
  | some value => .ok value
  | none => .error ⟨.invalidValue (String.ofList scalar), scalar⟩

theorem readValue_scalar {scalar : List Char} (nonempty : scalar ≠ [])
    (inside : ∀ c ∈ scalar, isScalarCharacter c = true) (noWord : readBool? scalar = none) :
    readValue (' ' :: scalar) =
      (scalarReading scalar (Value.ofScalar? scalar)).map fun value => (value, []) := by
  obtain ⟨c, tail, rfl⟩ := List.exists_cons_of_ne_nil nonempty
  have first := inside c List.mem_cons_self
  have uncovered : skipBlank (' ' :: c :: tail) = c :: tail := by
    rw [skipBlank_space, skipBlank_cons (isBlank_of_isScalarCharacter first)]
  have unquoted : ∀ more, skipBlank (' ' :: c :: tail) ≠ '"' :: more := by
    intro more opened
    rw [uncovered] at opened
    rw [(List.cons.inj opened).1] at first
    exact absurd first (by decide)
  have taken := takeWhile_append_of_ends inside (ends_nil isScalarCharacter)
  have left := dropWhile_append_of_ends inside (ends_nil isScalarCharacter)
  rw [List.append_nil] at taken left
  rw [readValue_of_unquoted unquoted, uncovered, noWord]
  simp only [readScalar, taken, left]
  cases Value.ofScalar? (c :: tail) <;> rfl

theorem readCondition_scalar {scalar : List Char} (nonempty : scalar ≠ [])
    (inside : ∀ c ∈ scalar, isScalarCharacter c = true) (noWord : readBool? scalar = none) :
    readCondition (' ' :: '=' :: ' ' :: scalar) =
      (scalarReading scalar (Value.ofScalar? scalar)).map fun value =>
        (.relates .eq value, []) := by
  have sign : Begins Relation.eq.symbol (' ' :: '=' :: ' ' :: scalar) (' ' :: scalar) :=
    (begins_append ['='] (' ' :: scalar)).space
  have signAgain := begins_congr (solid_symbol .eq) (skipBlank_skipBlank _).symm sign
  rw [readCondition_of_sign sign, readRelated, readRelation_of_begins signAgain (by simp)]
  show (readValue (' ' :: scalar) >>= _) = _
  rw [readValue_scalar nonempty inside noWord]
  cases Value.ofScalar? scalar <;> rfl

/-- A query fails with its first condition. -/
theorem readQuery_eq_error {name : String} (named : IsFieldName name) {middle : List Char}
    (opened : ¬ FollowsConstant (' ' :: middle)) {fault : Fault}
    (fails : readCondition (' ' :: middle) = .error fault) :
    readQuery (name.toList ++ ' ' :: middle) = .error fault := by
  have run := run_fieldName named middle
  have runAgain := run_congr (fun _ => isBlank_of_isNameCharacter) (skipBlank_skipBlank _).symm run
  have unit (fuel : Nat) : readUnit fuel (name.toList ++ ' ' :: middle) = .error fault := by
    rw [readUnit_of_noNegation (not_keyword_fieldName named middle), readOperand_of_name run opened,
      readComparison, readName_eq_ok_iff.mpr runAgain]
    exact bind_eq_error_iff.mpr (.inr ⟨_, rfl, bind_eq_error_iff.mpr (.inl fails)⟩)
  refine bind_eq_error_iff.mpr (.inl ?_)
  exact bind_eq_error_iff.mpr (.inl (bind_eq_error_iff.mpr (.inl (unit _))))

theorem readQuery_scalar {name : String} (named : IsFieldName name) {scalar : List Char}
    (nonempty : scalar ≠ []) (inside : ∀ c ∈ scalar, isScalarCharacter c = true)
    (noWord : readBool? scalar = none) :
    readQuery (name.toList ++ ' ' :: '=' :: ' ' :: scalar) =
      (scalarReading scalar (Value.ofScalar? scalar)).map fun value =>
        .compare name (.relates .eq value) := by
  have read := readCondition_scalar nonempty inside noWord
  have sign : Begins Relation.eq.symbol (' ' :: '=' :: ' ' :: scalar) (' ' :: scalar) :=
    (begins_append ['='] (' ' :: scalar)).space
  cases denotes : Value.ofScalar? scalar with
  | none =>
      rw [denotes] at read
      have opened := not_followsConstant_of_leads (sign.leads (solid_symbol .eq)) (by decide)
      exact readQuery_eq_error named opened read
  | some value =>
      rw [denotes] at read
      have spelled : Spells .unit (.comparison name (.relates .eq value))
          (name.toList ++ ' ' :: '=' :: ' ' :: scalar) [] :=
        .primary (not_keyword_fieldName named _)
          (.comparison (run_fieldName named _) (readCondition_eq_ok_iff.mp read))
      exact Predicate.readQuery_of_spells spelled

theorem readBool?_eq_none {c : Char} (other : c.toLower ≠ 't' ∧ c.toLower ≠ 'f') (tail : List Char) :
    readBool? (c :: tail) = none := by
  simp [readBool?, keyword?, dropWord?, other]

/-- What an unquoted operand stands for is not begun by a word for a Boolean. -/
theorem readBool?_of_ofScalar? {text : List Char} {value : Value}
    (denotes : Value.ofScalar? text = some value) : readBool? text = none := by
  cases text with
  | nil => rfl
  | cons c tail =>
      have noLetter : ¬ (c = 't' ∨ c = 'T' ∨ c = 'f' ∨ c = 'F') := by
        intro letter
        rw [Value.ofScalar?_eq_none_of_letter letter] at denotes
        cases denotes
      refine readBool?_eq_none ⟨fun lower => noLetter ?_, fun lower => noLetter ?_⟩ tail
      · exact (eq_of_toLower lower).elim .inl fun capital => .inr (.inl capital)
      · exact .inr (.inr (eq_of_toLower lower))

/-- Neither a digit nor a sign begins a word for a Boolean. -/
theorem readBool?_of_spellsInteger {text : List Char} {n : Int} (spells : SpellsInteger text n) :
    readBool? text = none := by
  obtain ⟨c, tail, rfl⟩ := List.exists_cons_of_ne_nil spells.ne_nil
  have other : c.toLower ≠ 't' ∧ c.toLower ≠ 'f' := by
    rcases spells.isDigit_or_sign_of_mem c List.mem_cons_self with digit | rfl | rfl
    · exact ⟨toLower_ne_of_isDigit digit (by decide), toLower_ne_of_isDigit digit (by decide)⟩
    · decide
    · decide
  exact readBool?_eq_none other tail

end Parser

namespace Predicate

theorem toList_scalarQuery (name : String) (scalar : List Char) :
    (name ++ " = " ++ String.ofList scalar).toList =
      name.toList ++ ' ' :: '=' :: ' ' :: scalar := by
  simp [String.toList_append]

/-- A query that compares a field with an unquoted operand is the comparison with what the operand
stands for, and is refused at the operand if it stands for nothing. -/
theorem parse_scalar {name : String} (named : IsFieldName name) {scalar : List Char}
    (nonempty : scalar ≠ []) (inside : ∀ c ∈ scalar, isScalarCharacter c = true)
    (noWord : readBool? scalar = none) :
    parse (name ++ " = " ++ String.ofList scalar) =
      match Value.ofScalar? scalar with
      | some value => .ok (.compare name (.relates .eq value))
      | none => .error ⟨.invalidValue (String.ofList scalar), byteLength name.toList + 3⟩ := by
  have place : byteLength (name.toList ++ ' ' :: '=' :: ' ' :: scalar) - byteLength scalar =
      byteLength name.toList + 3 := by
    have spaces : Char.utf8Size ' ' = 1 ∧ Char.utf8Size '=' = 1 := by decide
    simp only [byteLength_append, byteLength_cons, spaces]
    omega
  rw [parse, toList_scalarQuery, readQuery_scalar named nonempty inside noWord]
  cases Value.ofScalar? scalar with
  | some value => rfl
  | none => simp only [scalarReading, Except.map, place]

/-- A query that does not open with a parenthesis is read as a comparison only if it is the name of
the field and the condition. -/
theorem exists_spellsCondition_of_readQuery {text : List Char}
    (opened : ∀ first, ¬ Begins ['('] text first) {name : String} {condition : Condition}
    (read : Parser.readQuery text = .ok (compare name condition)) :
    ∃ middle rest, Run isNameCharacter name.toList text middle ∧
      SpellsCondition condition middle rest := by
  obtain ⟨tree, ⟨rest, spelled, -⟩, meaning⟩ := Parser.readQuery_eq_ok_iff.mp read
  cases spelled with
  | chain => cases meaning
  | single conjunction =>
      cases conjunction with
      | chain => cases meaning
      | single unit =>
          cases unit with
          | negation => cases meaning
          | primary _ primary =>
              cases primary with
              | comparison run condition =>
                  cases meaning
                  exact ⟨_, _, run, condition⟩
              | constant => cases meaning
              | parentheses opening => exact absurd opening (opened _)

/-- An unquoted operand is a word for a Boolean or what the scalar stands for. -/
theorem eq_ofScalar?_of_spellsOperand {scalar rest : List Char} (nonempty : scalar ≠ [])
    (inside : ∀ c ∈ scalar, isScalarCharacter c = true) {value : Value}
    (spells : SpellsOperand value (' ' :: scalar) rest) :
    value.kind = .bool ∨ Value.ofScalar? scalar = some value := by
  have whole : Run isScalarCharacter scalar (' ' :: scalar) [] := by
    have begins := begins_append scalar []
    rw [List.append_nil] at begins
    exact Run.space ⟨nonempty, inside, begins, ends_nil _⟩
  cases spells with
  | string quoted =>
      obtain ⟨c, tail, rfl, first, uncovered⟩ :=
        whole.exists_skipBlank_eq fun _ => isBlank_of_isScalarCharacter
      rw [begins_quote_iff, uncovered] at quoted
      rw [(List.cons.inj quoted).1] at first
      exact absurd first (by decide)
  | true | false => exact .inl rfl
  | scalar run denotes =>
      obtain ⟨rfl, -⟩ := whole.unique (fun _ => isBlank_of_isScalarCharacter) run
      exact .inr denotes

/-- A comparison that a query for an unquoted operand is read as is one with a Boolean or with what
the operand stands for. -/
theorem eq_ofScalar?_of_parse {name : String} (named : IsFieldName name) {scalar : List Char}
    (nonempty : scalar ≠ []) (inside : ∀ c ∈ scalar, isScalarCharacter c = true) {value : Value}
    (read : parse (name ++ " = " ++ String.ofList scalar) = .ok (compare name (.relates .eq value))) :
    value.kind = .bool ∨ Value.ofScalar? scalar = some value := by
  rw [parse_eq_ok_iff_readQuery, toList_scalarQuery] at read
  have run := run_fieldName named ('=' :: ' ' :: scalar)
  have opened : ∀ first, ¬ Begins ['('] (name.toList ++ ' ' :: '=' :: ' ' :: scalar) first := by
    intro first opening
    obtain ⟨c, tail, -, letter, uncovered⟩ :=
      run.exists_skipBlank_eq fun _ => isBlank_of_isNameCharacter
    rw [begins_iff solid_parenthesis.1, uncovered] at opening
    rw [(List.cons.inj opening).1] at letter
    exact absurd letter (by decide)
  obtain ⟨middle, rest, run', spelled⟩ := exists_spellsCondition_of_readQuery opened read
  obtain ⟨-, rfl⟩ := run.unique (fun _ => isBlank_of_isNameCharacter) run'
  cases spelled with
  | relates sign operand =>
      rw [begins_iff (solid_symbol .eq), skipBlank_space, skipBlank_cons rfl] at sign
      obtain ⟨-, rfl⟩ := List.cons.inj sign
      exact eq_ofScalar?_of_spellsOperand nonempty inside operand

/-- A query that compares a field with an integer is the comparison with that int, if sixty-four
bits hold the integer.  Beyond the doubles it is a comparison with an infinity, and any other integer
is refused where it begins. -/
theorem parse_integer {name : String} (named : IsFieldName name) {text : List Char} {n : Int}
    (spells : SpellsInteger text n) :
    parse (name ++ " = " ++ String.ofList text) =
      if -2 ^ 63 ≤ n ∧ n < 2 ^ 63 then
        .ok (.compare name (.relates .eq (.int (Int64.ofInt n))))
      else if Double.overflow ≤ n.natAbs then
        .ok (.compare name (.relates .eq (.double (Double.infinity (n < 0)))))
      else .error ⟨.invalidValue (String.ofList text), byteLength name.toList + 3⟩ := by
  have inside := isScalarCharacter_of_spellsInteger spells
  rw [parse_scalar named spells.ne_nil inside (readBool?_of_spellsInteger spells),
    Value.ofScalar?_of_spellsInteger spells]
  by_cases held : -2 ^ 63 ≤ n ∧ n < 2 ^ 63
  · rw [if_pos held, if_pos held]
  · by_cases large : Double.overflow ≤ n.natAbs
    · rw [if_neg held, if_neg held, if_pos large, if_pos large]
    · rw [if_neg held, if_neg held, if_neg large, if_neg large]

/-- The least integer that sixty-four bits hold is read with its sign, and the one below it is
refused. -/
theorem parse_integer_atLeast :
    SpellsInteger "-09223372036854775808".toList (-9223372036854775808) ∧
      parse "count = -09223372036854775808" =
        .ok (.compare "count" (.relates .eq (.int (Int64.ofInt (-9223372036854775808))))) ∧
      SpellsInteger "-9223372036854775809".toList (-9223372036854775809) ∧
      parse "count = -9223372036854775809" =
        .error ⟨.invalidValue "-9223372036854775809", 8⟩ := by
  have named : IsFieldName "count" := by decide
  have least : SpellsInteger "-09223372036854775808".toList (-9223372036854775808) :=
    .minus (by decide) (List.all_eq_true.mp (by decide))
  have below : SpellsInteger "-9223372036854775809".toList (-9223372036854775809) :=
    .minus (by decide) (List.all_eq_true.mp (by decide))
  have small : ¬ Double.overflow ≤ (-9223372036854775809 : Int).natAbs := by
    have wide : 2 ^ 64 ≤ Double.overflow := Double.two_pow_le_overflow (by decide)
    omega
  have held := parse_integer named least
  have refused := parse_integer named below
  rw [if_pos (by decide)] at held
  rw [if_neg (by decide), if_neg small] at refused
  exact ⟨least, held, below, refused⟩

/-- The digits of `10 ^ 309`. -/
def longDigits : List Char := '1' :: List.replicate 309 '0'

theorem ofDigitChars_one_zeros (n : Nat) :
    Nat.ofDigitChars 10 ('1' :: List.replicate n '0') 0 = 10 ^ n := by
  rw [Nat.ofDigitChars_cons, Nat.ofDigitChars_replicate_zero]
  exact Nat.mul_one _

/-- An integer beyond the doubles is not refused, though no int is as great. -/
theorem parse_longDigits :
    SpellsInteger longDigits (10 ^ 309) ∧ ¬ (10 ^ 309 : Int) < 2 ^ 63 ∧
      parse ("f = " ++ String.ofList longDigits) =
        .ok (.compare "f" (.relates .eq (.double (Double.infinity false)))) := by
  have decimal : ∀ c ∈ longDigits, c.isDigit = true := by
    refine List.forall_mem_cons.mpr ⟨by decide, fun c member => ?_⟩
    obtain rfl := List.eq_of_mem_replicate member
    decide
  have value : Nat.ofDigitChars 10 longDigits 0 = 10 ^ 309 := ofDigitChars_one_zeros 309
  have spells : SpellsInteger longDigits (10 ^ 309) := by
    have nonempty : longDigits ≠ [] := List.cons_ne_nil _ _
    have digits := SpellsInteger.unsigned nonempty decimal
    rw [value] at digits
    exact_mod_cast digits
  have beyond : ¬ (10 ^ 309 : Int) < 2 ^ 63 :=
    not_lt.mpr <| calc (2 : Int) ^ 63 ≤ 10 ^ 63 := pow_le_pow_left₀ (by decide) (by decide) 63
      _ ≤ 10 ^ 309 := pow_le_pow_right₀ (by decide) (by decide)
  have positive : ¬ (10 ^ 309 : Int) < 0 := not_lt.mpr (by positivity)
  have large : Double.overflow ≤ (10 ^ 309 : Int).natAbs := by
    have same : (10 ^ 309 : Int) = ((10 ^ 309 : Nat) : Int) := (Nat.cast_pow 10 309).symm
    rw [same]
    exact Double.overflow_le_ten_pow
  have infinite := Value.ofScalar?_of_spellsInteger spells
  rw [if_neg fun held => beyond held.2, if_pos large, decide_eq_false positive] at infinite
  have named : IsFieldName "f" := by decide
  have read := parse_scalar named spells.ne_nil
    (isScalarCharacter_of_spellsInteger spells) (readBool?_of_spellsInteger spells)
  rw [infinite] at read
  exact ⟨spells, beyond, read⟩

end Predicate
end RecordQuery
