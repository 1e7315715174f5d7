import RecordQuery.Proofs.Grammar.Tree
import RecordQuery.Proofs.Value.Literal

/-!
# Literals are operands

What `Value.literal` writes is an operand of the grammar, in front of everything that may follow an
operand in a written predicate.  It stands for the value itself, except that a case of an
enumeration is written like a string and every NaN like any other.
-/

namespace RecordQuery

open Text Grammar RecordQuery.Parser

namespace Value

/-- The value that the literal of a value stands for. -/
def reread : Value → Value
  | .enum case => .string case
  | .double value => .double (if value.isNaN then Double.nan else value)
  | value => value

/-- Every value has a literal but the instants whose year does not have four digits. -/
def HasLiteral : Value → Prop
  | .dateTime instant => instant.HasShortYear
  | _ => True

instance (value : Value) : Decidable value.HasLiteral :=
  match value with
  | .dateTime instant => inferInstanceAs (Decidable instant.HasShortYear)
  | .bool _ | .int _ | .double _ | .string _ | .date _ | .time _ | .enum _ =>
    inferInstanceAs (Decidable True)

end Value

namespace Grammar

/-- Nothing follows that could continue a word: the text is at its end, at a space or at a closing
parenthesis. -/
def Closes (rest : List Char) : Prop := ∀ c, rest.head? = some c → c = ' ' ∨ c = ')'

theorem Closes.ends {rest : List Char} (closes : Closes rest) {member : Char → Bool}
    (space : member ' ' = false) (closing : member ')' = false) : Ends member rest := by
  intro c head
  rcases closes c head with rfl | rfl
  · exact space
  · exact closing

/-! ## A space before a token -/

theorem Begins.space {token text rest : List Char} (begins : Begins token text rest) :
    Begins token (' ' :: text) rest := by
  obtain ⟨blanks, blank, rfl⟩ := begins
  exact ⟨' ' :: blanks, List.forall_mem_cons.mpr ⟨by decide, blank⟩, rfl⟩

theorem begins_append (token rest : List Char) : Begins token (token ++ rest) rest :=
  ⟨[], List.forall_mem_nil _, rfl⟩

theorem Keyword.space {word : String} {text rest : List Char} (keyword : Keyword word text rest) :
    Keyword word (' ' :: text) rest := by
  obtain ⟨spelled, lower, begins, ends⟩ := keyword
  exact ⟨spelled, lower, begins.space, ends⟩

theorem keyword_append {word : String} {spelled rest : List Char}
    (lower : spelled.map Char.toLower = word.toList) (closes : Closes rest) :
    Keyword word (spelled ++ rest) rest :=
  ⟨spelled, lower, begins_append spelled rest, closes.ends rfl rfl⟩

theorem Run.space {member : Char → Bool} {run text rest : List Char}
    (found : Run member run text rest) : Run member run (' ' :: text) rest :=
  ⟨found.1, found.2.1, found.2.2.1.space, found.2.2.2⟩

theorem SpellsOperand.space {value : Value} {text rest : List Char}
    (spells : SpellsOperand value text rest) : SpellsOperand value (' ' :: text) rest := by
  cases spells with
  | string quoted => exact .string quoted.space
  | true word => exact .true word.space
  | false word => exact .false word.space
  | scalar found denotes => exact .scalar found.space denotes

/-! ## Literals -/

theorem isScalarCharacter_of_isDigit {c : Char} (digit : c.isDigit = true) :
    isScalarCharacter c = true := by
  simp [isScalarCharacter, Char.isAlphanum, digit]

theorem spellsOperand_scalar {value : Value} {run rest : List Char}
    (inside : ∀ c ∈ run, isScalarCharacter c = true) (closes : Closes rest)
    (denotes : Value.ofScalar? run = some value) : SpellsOperand value (run ++ rest) rest := by
  have nonempty : run ≠ [] := by
    rintro rfl
    have refused : Value.ofScalar? [] = none := by decide
    rw [refused] at denotes
    cases denotes
  exact .scalar ⟨nonempty, inside, begins_append run rest, closes.ends rfl rfl⟩
    denotes

theorem isScalarCharacter_of_spellsInteger {text : List Char} {n : Int}
    (spells : SpellsInteger text n) : ∀ c ∈ text, isScalarCharacter c = true := by
  intro c member
  rcases spells.isDigit_or_sign_of_mem c member with digit | rfl | rfl
  · exact isScalarCharacter_of_isDigit digit
  · rfl
  · rfl

theorem isScalarCharacter_of_mem_date {date : Date} {c : Char} (member : c ∈ date.text) :
    isScalarCharacter c = true := by
  rcases Date.mem_text member with digit | rfl | rfl
  · exact isScalarCharacter_of_isDigit digit
  · rfl
  · rfl

theorem isScalarCharacter_of_mem_time {time : TimeOfDay} {c : Char} (member : c ∈ time.text) :
    isScalarCharacter c = true := by
  rcases TimeOfDay.mem_text member with digit | rfl | rfl
  · exact isScalarCharacter_of_isDigit digit
  · rfl
  · rfl

theorem isScalarCharacter_of_mem_instant {instant : Instant} {c : Char}
    (member : c ∈ instant.text) : isScalarCharacter c = true := by
  simp only [Instant.text, List.mem_append, List.mem_cons, List.not_mem_nil, or_false] at member
  rcases member with date | rfl | time | rfl
  · exact isScalarCharacter_of_mem_date date
  · rfl
  · exact isScalarCharacter_of_mem_time time
  · rfl

theorem isScalarCharacter_of_mem_double {d : Double} (number : d.isNaN = false) {c : Char}
    (member : c ∈ (Value.double d).literal) : isScalarCharacter c = true := by
  obtain ⟨body, text_eq, written⟩ := Value.exists_literal_double_eq number
  have inside : c ∈ body → isScalarCharacter c = true := by
    intro inBody
    rcases written with ⟨whole, fraction, spelling⟩ | ⟨-, rfl⟩
    · rcases spelling.mem_body inBody with digit | rfl
      · exact isScalarCharacter_of_isDigit digit
      · rfl
    · have letters : "inf".toList.all isScalarCharacter = true := by decide
      exact List.all_eq_true.mp letters c inBody
  rw [text_eq] at member
  split at member
  · rcases List.mem_cons.mp member with rfl | inBody
    · rfl
    · exact inside inBody
  · exact inside member

theorem literal_nan {d : Double} (noNumber : d.isNaN = true) :
    (Value.double d).literal = "NaN".toList := by
  have notFinite : d.isFinite = false := by
    simp only [Double.isNaN, Double.isFinite, decide_eq_true_eq, decide_eq_false_iff_not] at *
    omega
  simp [Value.literal_double, Double.isWhole, notFinite, Double.Layout.text, noNumber,
    Double.positional]

/-- A literal is an operand that stands for the value as it is read back. -/
theorem spellsOperand_literal {value : Value} (hasLiteral : value.HasLiteral) {rest : List Char}
    (closes : Closes rest) : SpellsOperand value.reread (value.literal ++ rest) rest := by
  cases value with
  | bool value =>
      cases value with
      | true => exact .true (keyword_append rfl closes)
      | false => exact .false (keyword_append rfl closes)
  | int value =>
      have inside := isScalarCharacter_of_spellsInteger (spellsInteger_ofInt value.toInt)
      exact spellsOperand_scalar inside closes (Value.ofScalar?_int value)
  | double value =>
      cases number : value.isNaN with
      | true =>
          rw [literal_nan number, Value.reread, if_pos number]
          have letters : "NaN".toList.all isScalarCharacter = true := by decide
          exact spellsOperand_scalar (List.all_eq_true.mp letters) closes rfl
      | false =>
          rw [Value.reread, number, if_neg Bool.false_ne_true]
          exact spellsOperand_scalar (fun c => isScalarCharacter_of_mem_double number) closes
            (Value.ofScalar?_double number)
  | string text => exact .string (begins_append _ rest)
  | date value =>
      exact spellsOperand_scalar (fun c => isScalarCharacter_of_mem_date) closes
        (Value.ofScalar?_date value)
  | dateTime value =>
      exact spellsOperand_scalar (fun c => isScalarCharacter_of_mem_instant) closes
        (Value.ofScalar?_dateTime hasLiteral)
  | time value =>
      exact spellsOperand_scalar (fun c => isScalarCharacter_of_mem_time) closes
        (Value.ofScalar?_time value)
  | enum case => exact .string (begins_append _ rest)

end Grammar
end RecordQuery
