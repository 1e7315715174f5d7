import RecordQuery.Proofs.Cursor.Operand
import RecordQuery.Proofs.Grammar.Leaves

/-!
# String literals have one spelling

Behind an opening quote, the readers of needles and of operands take what `quote` writes of a text
and nothing else, and refuse every text that goes on in another way.  A cursor that is anywhere
behind an opening quote passes the same characters.
-/

namespace RecordQuery
namespace Cursor

open Text RecordQuery.Parser Scan

/-- A text that goes on behind an opening quote like no literal does, and the fault in it. -/
inductive NoLiteral : List Char → Fault → Prop where
  /-- A backslash stands at the end of the text or before what it does not escape. -/
  | stray (inside : List Char) {unread : List Char} (ends : Ends isEscaped unread) :
    NoLiteral (escape inside ++ '\\' :: unread) ⟨.invalidEscape, unread⟩
  /-- There is no closing quote. -/
  | unclosed (inside : List Char) : NoLiteral (escape inside) ⟨.unterminatedString, []⟩

variable {text rest : List Char} {fault : Fault}

theorem readStringEnd_eq_error_iff : readStringEnd text = .error fault ↔ NoLiteral text fault := by
  rw [readStringEnd]
  constructor
  · intro refused
    cases read : readQuoted text with
    | ok result => rw [read] at refused; cases refused
    | error problem =>
        rw [read] at refused
        obtain ⟨inside, tail, rfl, ends⟩ := readQuoted_eq_error_iff.mp read
        cases ends with
        | missing =>
            obtain rfl := Except.error.inj refused
            rw [List.append_nil]
            exact .unclosed inside
        | stray ends =>
            obtain rfl := Except.error.inj refused
            exact .stray inside ends
  · rintro (⟨inside, ends⟩ | ⟨inside⟩)
    · rw [readQuoted_of_literalEnd inside (.stray ends)]
      rfl
    · rw [← List.append_nil (escape inside), readQuoted_of_literalEnd inside .missing]
      rfl

theorem quote_append_eq_iff {inside : List Char} :
    '"' :: text = quote inside ++ rest ↔ text = escape inside ++ '"' :: rest := by
  rw [quote, List.cons_append, List.append_assoc, List.singleton_append, List.cons_inj_right]

/-- Behind an opening quote, wherever it is, a cursor goes on to the end of the literal. -/
theorem stringEnd_eq_ok_iff {front : List Char} {inside : String} {place : Nat} :
    (stringEnd (front ++ '"' :: text) (byteLength (front ++ ['"']))).outcome =
        .ok (inside, place) ↔
      ∃ rest, '"' :: text = quote inside.toList ++ rest ∧
        place = byteLength (front ++ quote inside.toList) := by
  have split : front ++ '"' :: text = (front ++ ['"']) ++ text := List.append_cons front '"' text
  have ends : text <:+ front ++ '"' :: text := split ▸ List.suffix_append _ text
  have begins : placeOf (front ++ '"' :: text) text = byteLength (front ++ ['"']) := by
    rw [split, placeOf_append]
  have scanned := (tracks_stringEnd _ text ends (Nat.lt_succ_self _)).outcome
  rw [begins] at scanned
  rw [scanned, located_eq_ok_iff]
  refine exists_congr fun rest => ?_
  rw [readStringEnd_eq_ok_iff, ← quote_append_eq_iff]
  refine and_congr_right fun literal => ?_
  rw [literal, ← List.append_assoc, placeOf_append]

/-- A text behind an opening quote is read as a string exactly if the quote and what is read of the
text are the literal of this string; every other text is refused. -/
theorem literal_spelling (text : List Char) :
    (∀ inside rest, readString ('"' :: text) = .ok (inside, rest) ↔
        '"' :: text = quote inside.toList ++ rest) ∧
      (∀ value rest, readValue ('"' :: text) = .ok (value, rest) ↔
        ∃ inside, value = .string inside ∧ '"' :: text = quote inside.toList ++ rest) ∧
      (∀ fault, readString ('"' :: text) = .error fault ↔ NoLiteral text fault) ∧
      (∀ fault, readValue ('"' :: text) = .error fault ↔ NoLiteral text fault) ∧
      ∀ front inside place,
        (stringEnd (front ++ '"' :: text) (byteLength (front ++ ['"']))).outcome =
            .ok (inside, place) ↔
          ∃ rest, '"' :: text = quote inside.toList ++ rest ∧
            place = byteLength (front ++ quote inside.toList) := by
  have needle : readString ('"' :: text) = readStringEnd text := rfl
  have operand : readValue ('"' :: text) = (readStringEnd text).map _ := rfl
  refine ⟨fun inside rest => ?_, fun value rest => ?_, fun fault => ?_, fun fault => ?_,
    fun _ _ _ => stringEnd_eq_ok_iff⟩
  · rw [needle, quote_append_eq_iff, readStringEnd_eq_ok_iff]
  · rw [operand, map_eq_ok_iff]
    constructor
    · rintro ⟨⟨inside, after⟩, read, same⟩
      obtain ⟨rfl, rfl⟩ := Prod.mk.inj same
      exact ⟨inside, rfl, quote_append_eq_iff.mpr (readStringEnd_eq_ok_iff.mp read)⟩
    · rintro ⟨inside, rfl, literal⟩
      have read := readStringEnd_eq_ok_iff.mpr (quote_append_eq_iff.mp literal)
      exact ⟨(inside, rest), read, rfl⟩
  · rw [needle, readStringEnd_eq_error_iff]
  · rw [operand, map_eq_error_iff, readStringEnd_eq_error_iff]

example : readString "\"\x00\\\\\" = 1".toList = .ok ("\x00\\", " = 1".toList) := rfl

end Cursor
end RecordQuery
