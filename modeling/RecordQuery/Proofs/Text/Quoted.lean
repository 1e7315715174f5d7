import RecordQuery.Proofs.Result
import RecordQuery.Proofs.Text.Run
import RecordQuery.Text.Quoted

/-!
# Quoted texts read back

Every text is the inside of a literal up to its end, up to a quote, or up to a backslash that stands
before something else than a quote or a backslash.  `readQuoted` accepts it in the second case only,
which is what `escape` and a closing quote write, so every text has one literal.
-/

namespace RecordQuery
namespace Text

theorem readQuoted_cons {c : Char} (plain : isEscaped c = false) (text : List Char) :
    readQuoted (c :: text) =
      (readQuoted text).map fun result => (c :: result.1, result.2) := by
  simp only [isEscaped, Bool.or_eq_false_iff, beq_eq_false_iff_ne] at plain
  rw [readQuoted] <;> simp_all

theorem readQuoted_escaped {c : Char} (escaped : isEscaped c = true) (text : List Char) :
    readQuoted ('\\' :: c :: text) =
      (readQuoted text).map fun result => (c :: result.1, result.2) := by
  simp only [isEscaped, Bool.or_eq_true, beq_iff_eq] at escaped
  rcases escaped with rfl | rfl <;> rw [readQuoted]

/-- A backslash before anything else than a quote or a backslash is refused. -/
theorem readQuoted_of_ends {unread : List Char} (ends : Ends isEscaped unread) :
    readQuoted ('\\' :: unread) = .error (.invalidEscape unread) := by
  cases unread with
  | nil => rfl
  | cons c unread =>
      have plain := ends_cons.mp ends
      simp only [isEscaped, Bool.or_eq_false_iff, beq_eq_false_iff_ne] at plain
      rw [readQuoted] <;> simp_all

theorem readQuoted_escape_append (inside rest : List Char) :
    readQuoted (escape inside ++ rest) =
      (readQuoted rest).map fun result => (inside ++ result.1, result.2) := by
  have more (c : Char) (inside : List Char) :
      ((readQuoted rest).map fun result => (inside ++ result.1, result.2)).map
          (fun result => (c :: result.1, result.2)) =
        (readQuoted rest).map fun result => (c :: inside ++ result.1, result.2) := by
    cases readQuoted rest <;> rfl
  induction inside with
  | nil =>
      show readQuoted rest = _
      cases readQuoted rest <;> rfl
  | cons c inside ih =>
      cases escaped : isEscaped c with
      | false =>
          rw [escape, if_neg (by simp [escaped]), List.cons_append, readQuoted_cons escaped, ih,
            more]
      | true =>
          rw [escape, if_pos escaped, List.cons_append, List.cons_append,
            readQuoted_escaped escaped, ih, more]

/-! ## Where a literal ends -/

/-- How a text can go on behind the inside of a literal: what is left of it behind the literal, or
what is wrong. -/
inductive LiteralEnd : List Char → Except QuoteFault (List Char) → Prop where
  /-- The text ends. -/
  | missing : LiteralEnd [] (.error .unterminated)
  /-- The literal is closed. -/
  | closing (rest : List Char) : LiteralEnd ('"' :: rest) (.ok rest)
  /-- A backslash escapes nothing. -/
  | stray {unread : List Char} (ends : Ends isEscaped unread) :
    LiteralEnd ('\\' :: unread) (.error (.invalidEscape unread))

variable {text inside rest tail : List Char} {outcome : Except QuoteFault (List Char)}

theorem readQuoted_of_literalEnd (inside : List Char) (ends : LiteralEnd tail outcome) :
    readQuoted (escape inside ++ tail) = outcome.map fun rest => (inside, rest) := by
  rw [readQuoted_escape_append]
  cases ends with
  | missing => rfl
  | closing rest => exact congrArg (fun inside => Except.ok (inside, rest)) (List.append_nil inside)
  | stray ends => rw [readQuoted_of_ends ends]; rfl

/-- Every text is the inside of a literal up to where the literal ends. -/
theorem exists_escape (text : List Char) :
    ∃ inside tail outcome, text = escape inside ++ tail ∧ LiteralEnd tail outcome := by
  fun_induction readQuoted text with
  | case1 => exact ⟨[], [], _, rfl, .missing⟩
  | case2 rest => exact ⟨[], '"' :: rest, _, rfl, .closing rest⟩
  | case3 rest ih =>
      obtain ⟨inside, tail, outcome, rfl, ends⟩ := ih
      exact ⟨'"' :: inside, tail, outcome, rfl, ends⟩
  | case4 rest ih =>
      obtain ⟨inside, tail, outcome, rfl, ends⟩ := ih
      exact ⟨'\\' :: inside, tail, outcome, rfl, ends⟩
  | case5 rest notQuote notBackslash =>
      refine ⟨[], '\\' :: rest, _, rfl, .stray fun c head => ?_⟩
      obtain ⟨tail, rfl⟩ := List.head?_eq_some_iff.mp head
      simp_all [isEscaped]
  | case6 c rest notQuote _ _ notBackslash ih =>
      obtain ⟨inside, tail, outcome, rfl, ends⟩ := ih
      have plain : isEscaped c = false := by simp_all [isEscaped]
      refine ⟨c :: inside, tail, outcome, ?_, ends⟩
      rw [escape, if_neg (by simp [plain]), List.cons_append]

theorem readQuoted_eq_ok_iff :
    readQuoted text = .ok (inside, rest) ↔ text = escape inside ++ '"' :: rest := by
  constructor
  · intro read
    obtain ⟨front, tail, outcome, rfl, ends⟩ := exists_escape text
    rw [readQuoted_of_literalEnd front ends] at read
    cases ends with
    | missing => cases read
    | closing after =>
        obtain ⟨rfl, rfl⟩ := Prod.mk.inj (Except.ok.inj read)
        rfl
    | stray => cases read
  · rintro rfl
    exact readQuoted_of_literalEnd inside (.closing rest)

theorem readQuoted_eq_error_iff {fault : QuoteFault} :
    readQuoted text = .error fault ↔
      ∃ inside tail, text = escape inside ++ tail ∧ LiteralEnd tail (.error fault) := by
  constructor
  · intro refused
    obtain ⟨inside, tail, outcome, rfl, ends⟩ := exists_escape text
    rw [readQuoted_of_literalEnd inside ends] at refused
    cases outcome with
    | ok rest => cases refused
    | error fault =>
        obtain rfl := Except.error.inj refused
        exact ⟨inside, tail, rfl, ends⟩
  · rintro ⟨inside, tail, rfl, ends⟩
    exact readQuoted_of_literalEnd inside ends

end Text
end RecordQuery
