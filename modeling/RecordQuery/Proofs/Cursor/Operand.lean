import RecordQuery.Proofs.Cursor.Token
import RecordQuery.Proofs.Text.Quoted

/-!
# Scanning names and operands

The scans of names, string literals, unquoted operands and signs.  The end of the text is scanned as
a null character, which can also stand in the text: what follows a backslash is compared with the
two escaped characters, of which it is none.
-/

namespace RecordQuery
namespace Cursor

open Text RecordQuery.Parser

namespace Scan

/-- The characters of a class from the cursor on, at least one. -/
def run (member : Char → Bool) (width : Char → Nat) (missing : ParseProblem) :
    Scan (List Char) := do
  let start ← position
  bounded (passWhile member width)
  if (← position) = start then
    refuse missing
  else
    readSince start

/-- The name of a field. -/
def name : Scan String := do
  passBlanks
  return String.ofList (← run isNameCharacter Char.utf8Size .expectedIdentifier)

/-- What follows a backslash in a string literal; `next` scans the rest of the literal, given the
inside of it so far. -/
def escapeFrom (next : List Char → Scan String) (inside : List Char) : Scan String := do
  let escaped ← current
  if isEscaped escaped then
    advance 1
    next (inside ++ [escaped])
  else
    refuse .invalidEscape

/-- The rest of a string literal, given the inside of it so far. -/
def literalFrom : Nat → List Char → Scan String
  | 0, _ => stop .exhausted
  | steps + 1, inside => do
    if ← atEnd then
      refuse .unterminatedString
    else
      let c ← current
      advance c.utf8Size
      if c = '"' then
        return String.ofList inside
      else if c = '\\' then
        escapeFrom (literalFrom steps) inside
      else
        literalFrom steps (inside ++ [c])

/-- The inside of a string literal, after its opening quote. -/
def stringEnd : Scan String := bounded fun steps => literalFrom steps []

/-- A string literal. -/
def string : Scan String := do
  passBlanks
  if ← passChar '"' then
    stringEnd
  else
    refuse .expectedString

/-- An unquoted operand; its characters are passed by one byte each. -/
def scalar : Scan Value := do
  let start ← position
  let text ← run isScalarCharacter (fun _ => 1) .expectedValue
  match Value.ofScalar? text with
  | some value => return value
  | none => refuseAt (.invalidValue (String.ofList text)) start

/-- An operand. -/
def value : Scan Value := do
  passBlanks
  if ← passChar '"' then
    return .string (← stringEnd)
  else if ← passKeyword "true" then
    return .bool true
  else if ← passKeyword "false" then
    return .bool false
  else
    scalar

/-- The first of the relations whose sign comes next. -/
def relationOf : List Relation → Scan Relation
  | [] => refuse .expectedOperator
  | relation :: relations => do
    if ← passSign relation.symbol then
      return relation
    else
      relationOf relations

/-- The sign of a relation. -/
def relation : Scan Relation := do
  passBlanks
  relationOf relationsBySign

variable {limit : Nat} {text rest : List Char}

/-! ## Runs -/

/-- The reader of a run of characters of a class. -/
def readRun (member : Char → Bool) (missing : ParseProblem) : Reader (List Char) := fun rest =>
  if (rest.takeWhile member).isEmpty then .error ⟨missing, rest⟩
  else .ok (rest.takeWhile member, rest.dropWhile member)

theorem placeOf_eq_iff {run : List Char} (ends : run ++ rest <:+ text) :
    placeOf text rest = placeOf text (run ++ rest) ↔ run = [] := by
  obtain ⟨front, rfl⟩ := ends
  rw [placeOf_append, ← List.append_assoc, placeOf_append, byteLength_append, Nat.add_eq_left,
    byteLength_eq_zero_iff]

theorem tracks_run (member : Char → Bool) {width : Char → Nat}
    (exact : ∀ c, member c = true → width c = c.utf8Size) (missing : ParseProblem) :
    Tracks limit (run member width missing) (readRun member missing) := by
  intro text rest ends _
  have whole : rest.takeWhile member ++ rest.dropWhile member = rest :=
    List.takeWhile_append_dropWhile
  have left : rest.dropWhile member <:+ rest := List.dropWhile_suffix member
  refine (Follows.position (List.suffix_refl rest)).bind_ok ?_
  refine (follows_passWhile exact ends (Nat.lt_succ_of_le ends.length_le)).bind_ok ?_
  refine (Follows.position left).bind_ok ?_
  have stands : rest.takeWhile member ++ rest.dropWhile member <:+ text := whole.symm ▸ ends
  have same := placeOf_eq_iff stands
  rw [whole] at same
  rw [readRun]
  by_cases empty : rest.takeWhile member = []
  · rw [if_pos (same.mpr empty), if_pos (by rw [empty]; rfl), same.mpr empty]
    exact .refused _ (List.suffix_refl rest)
  · rw [if_neg (mt same.mp empty), if_neg (by simpa using empty)]
    have taken := Follows.readSince stands left
    rwa [whole] at taken

theorem tracks_name : Tracks limit name readName := by
  have named : Tracks limit (do return String.ofList (← run isNameCharacter _ _)) _ :=
    (tracks_run isNameCharacter (fun _ _ => rfl) .expectedIdentifier).bind
      fun taken => .pure (String.ofList taken)
  refine named.afterBlanks.congr fun rest _ => ?_
  rw [readRun, readName]
  split <;> rfl

/-! ## String literals -/

/-- The reader of the rest of a string literal, given the inside of it so far. -/
def readLiteral (inside : List Char) : Reader String := fun rest =>
  match readQuoted rest with
  | .ok (more, rest) => .ok (String.ofList (inside ++ more), rest)
  | .error (.invalidEscape unread) => .error ⟨.invalidEscape, unread⟩
  | .error .unterminated => .error ⟨.unterminatedString, []⟩

theorem readLiteral_nil : readLiteral [] = readStringEnd := by
  funext rest
  rw [readLiteral, readStringEnd]
  rfl

variable {c : Char} {inside : List Char}

theorem readLiteral_quote : readLiteral inside ('"' :: rest) = .ok (String.ofList inside, rest) :=
  congrArg (fun whole => Except.ok (String.ofList whole, rest)) (List.append_nil inside)

/-- One character more has been read of the inside. -/
theorem readLiteral_of_map {longer : List Char}
    (read : readQuoted longer = (readQuoted rest).map fun result => (c :: result.1, result.2)) :
    readLiteral inside longer = readLiteral (inside ++ [c]) rest := by
  rw [readLiteral, readLiteral, read]
  rcases readQuoted rest with (unread | _) | ⟨more, after⟩
  · rfl
  · rfl
  · exact congrArg (fun whole => Except.ok (String.ofList whole, after))
      (List.append_cons inside c more)

theorem readLiteral_of_ends (ends : Ends isEscaped rest) :
    readLiteral inside ('\\' :: rest) = .error ⟨.invalidEscape, rest⟩ := by
  rw [readLiteral, readQuoted_of_ends ends]

theorem byteLength_of_isEscaped (escaped : isEscaped c = true) : byteLength [c] = 1 := by
  simp only [isEscaped, Bool.or_eq_true, beq_iff_eq] at escaped
  rcases escaped with rfl | rfl <;> rfl

theorem follows_escapeFrom {next : List Char → Scan String} (ends : rest <:+ text)
    (goesOn : ∀ c after, rest = c :: after → Follows text after
      (next (inside ++ [c]) text (placeOf text after)) (readLiteral (inside ++ [c]) after)) :
    Follows text rest (escapeFrom next inside text (placeOf text rest))
      (readLiteral inside ('\\' :: rest)) := by
  have here := List.suffix_refl rest
  refine (Follows.current ends here).bind_ok ?_
  cases rest with
  | nil =>
      -- The null character for the end of the text is none that can be escaped.
      rw [readLiteral_of_ends (ends_nil isEscaped)]
      exact .refused _ here
  | cons c rest =>
      rw [List.headD_cons]
      cases escaped : isEscaped c with
      | false =>
          rw [readLiteral_of_ends (ends_cons.mpr escaped)]
          exact .refused _ here
      | true =>
          have shorter : rest <:+ c :: rest := List.suffix_cons c rest
          have passed := Follows.advance [c] ends shorter
          rw [byteLength_of_isEscaped escaped] at passed
          rw [readLiteral_of_map (readQuoted_escaped escaped rest)]
          exact passed.bind_ok ((goesOn c rest rfl).mono shorter)

theorem follows_literalFrom (ends : rest <:+ text) {steps : Nat} (enough : rest.length < steps)
    (inside : List Char) :
    Follows text rest (literalFrom steps inside text (placeOf text rest))
      (readLiteral inside rest) := by
  induction steps generalizing rest inside with
  | zero => exact absurd enough (Nat.not_lt_zero _)
  | succ steps ih =>
      refine (Follows.atEnd ends (List.suffix_refl rest)).bind_ok ?_
      cases rest with
      | nil => exact .refused _ (List.suffix_refl _)
      | cons c rest =>
          have shorter : rest <:+ c :: rest := List.suffix_cons c rest
          refine (Follows.current ends (List.suffix_refl _)).bind_ok ?_
          refine (Follows.advance [c] ends shorter).bind_ok ?_
          rw [List.headD_cons]
          by_cases quote : c = '"'
          · subst quote
            rw [if_pos rfl, readLiteral_quote]
            exact .still _ shorter
          rw [if_neg quote]
          by_cases backslash : c = '\\'
          · subst backslash
            rw [if_pos rfl]
            have goesOn (c : Char) (after : List Char) (split : rest = c :: after) :
                Follows text after (literalFrom steps (inside ++ [c]) text (placeOf text after))
                  (readLiteral (inside ++ [c]) after) := by
              subst split
              have less : after.length < steps := by simp at enough; omega
              exact ih ((List.suffix_cons c after).trans (shorter.trans ends)) less _
            exact (follows_escapeFrom (shorter.trans ends) goesOn).mono shorter
          · rw [if_neg backslash]
            have plain : isEscaped c = false := by simp [isEscaped, quote, backslash]
            rw [readLiteral_of_map (readQuoted_cons plain rest)]
            have goesOn := ih (shorter.trans ends) (Nat.lt_of_succ_lt_succ enough) (inside ++ [c])
            exact goesOn.mono shorter

theorem tracks_stringEnd : Tracks limit stringEnd readStringEnd := by
  intro text rest ends _
  rw [← readLiteral_nil]
  exact follows_literalFrom ends (Nat.lt_succ_of_le ends.length_le) []

theorem isPrefixOf?_eq_none_of_ne (other : ∀ after, rest ≠ c :: after) :
    [c].isPrefixOf? rest = none :=
  Option.eq_none_iff_forall_ne_some.mpr fun after found =>
    other after (isPrefixOf?_eq_some_iff.mp found)

theorem tracks_string : Tracks limit string readString := by
  have opened : Tracks limit (do if ← passChar '"' then stringEnd else refuse _) _ :=
    .ifChar '"' tracks_stringEnd (.refuse .expectedString)
  refine opened.afterBlanks.congr fun rest _ => ?_
  rw [readString]
  split
  next after opens => rw [opens]; rfl
  next other => rw [isPrefixOf?_eq_none_of_ne other]

/-! ## Operands and relations -/

theorem toNat_le_of_isAlphanum (letter : c.isAlphanum = true) : c.val.toNat ≤ 127 := by
  rcases (Bool.or_eq_true _ _).mp letter with alpha | digit
  · rcases (Bool.or_eq_true _ _).mp alpha with upper | lower
    · have top : c.val.toNat ≤ 90 := (of_decide_eq_true upper).2
      omega
    · have top : c.val.toNat ≤ 122 := of_decide_eq_true ((Bool.and_eq_true _ _).mp lower).2
      omega
  · have top : c.val.toNat ≤ 57 := of_decide_eq_true ((Bool.and_eq_true _ _).mp digit).2
    omega

theorem utf8Size_of_isScalarCharacter (scalar : isScalarCharacter c = true) :
    1 = c.utf8Size := by
  refine (Char.utf8Size_eq_one_iff.mpr ?_).symm
  simp only [isScalarCharacter, Bool.or_eq_true, beq_iff_eq] at scalar
  rcases scalar with (((letter | rfl) | rfl) | rfl) | rfl
  · exact UInt32.le_iff_toNat_le.mpr (toNat_le_of_isAlphanum letter)
  all_goals decide

theorem tracks_scalar : Tracks limit scalar readScalar := by
  intro text rest ends short
  refine (Follows.position (List.suffix_refl rest)).bind_ok ?_
  have taken := tracks_run isScalarCharacter (fun _ => utf8Size_of_isScalarCharacter)
    .expectedValue text rest ends short
  rw [readScalar]
  rw [readRun] at taken
  by_cases empty : (rest.takeWhile isScalarCharacter).isEmpty = true
  · rw [if_pos empty] at taken ⊢
    exact taken.bind_error
  · rw [if_neg empty] at taken ⊢
    refine taken.bind_ok ?_
    cases Value.ofScalar? (rest.takeWhile isScalarCharacter) with
    | some value => exact .still value (List.dropWhile_suffix _)
    | none => exact .refused _ (List.suffix_refl rest)

theorem tracks_value : Tracks limit value readValue := by
  have unquoted : Tracks limit (do
      if ← passKeyword "true" then return Value.bool true
      else if ← passKeyword "false" then return Value.bool false
      else scalar) _ :=
    .ifKeyword (by decide) (.pure (Value.bool true))
      (.ifKeyword (by decide) (.pure (Value.bool false)) tracks_scalar)
  have quoted : Tracks (limit - 1) (do return Value.string (← stringEnd)) _ :=
    tracks_stringEnd.bind fun inside => .pure (Value.string inside)
  refine (quoted.ifChar '"' unquoted).afterBlanks.congr fun rest _ => ?_
  rw [readValue]
  split
  next after opens =>
    rw [opens]
    show (readStringEnd after).map _ = readStringEnd after >>= _
    cases readStringEnd after <;> rfl
  next other =>
    rw [isPrefixOf?_eq_none_of_ne other, readBool?]
    cases keyword? "true" (skipBlank rest) with
    | some after => rfl
    | none => cases keyword? "false" (skipBlank rest) <;> rfl

/-- A sign of the relations is tried after the other. -/
theorem tracks_relationOf (relations : List Relation) :
    Tracks limit (relationOf relations) fun rest =>
      match relations.findSome? fun relation =>
          (relation.symbol.isPrefixOf? rest).map fun after => (relation, after) with
      | some result => .ok result
      | none => .error ⟨.expectedOperator, rest⟩ := by
  induction relations with
  | nil => exact .refuse .expectedOperator
  | cons relation relations ih =>
      have nonempty : relation.symbol ≠ [] := by cases relation <;> decide
      have signed : Tracks limit (relationOf (relation :: relations)) _ :=
        .ifSign nonempty (.pure relation) ih
      refine signed.congr fun rest _ => ?_
      rw [List.findSome?_cons]
      cases relation.symbol.isPrefixOf? rest <;> rfl

theorem tracks_relation : Tracks limit relation readRelation :=
  (tracks_relationOf relationsBySign).afterBlanks

end Scan
end Cursor
end RecordQuery
