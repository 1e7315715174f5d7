import RecordQuery.Proofs.Cursor.Operand

/-!
# Scanning queries

The scans of conditions, constants, operands, chains and whole queries.  The scan of a constant
looks further ahead than the constant reaches, and puts the cursor back to where it has been.
-/

namespace RecordQuery
namespace Cursor

open Text RecordQuery.Parser

namespace Scan

/-- The needle of a text test. -/
def needle (test : TextTest) : Scan Condition := do
  return .finds test (← string)

/-- The bounds of a range. -/
def range : Scan Condition := do
  let lower ← value
  passBlanks
  if ← passKeyword "and" then
    return .between lower (← value)
  else
    refuse .expectedAnd

/-- A relation and its operand. -/
def related : Scan Condition := do
  let relation ← relation
  return .relates relation (← value)

/-- What follows `not` in a condition. -/
def negated : Scan Condition := do
  passBlanks
  if ← passKeyword "contains" then
    needle .notContains
  else
    refuse .expectedContains

/-- A condition, as it follows the name of a field. -/
def condition : Scan Condition := do
  passBlanks
  if ← passKeyword "contains" then
    needle .contains
  else if ← passKeyword "not" then
    negated
  else if ← passKeyword "beginswith" then
    needle .beginsWith
  else if ← passKeyword "between" then
    range
  else
    related

/-- A comparison of a field. -/
def comparison : Scan Predicate := do
  let field ← name
  return .compare field (← condition)

/-- The word of a constant. -/
def constantWord : Scan (Option Predicate) := do
  if ← passKeyword "all" then
    return some .everything
  else if ← passKeyword "none" then
    return some .nothing
  else
    return none

/-- Looks for a keyword that joins. -/
def joinerNext : Scan Bool := do
  if ← passKeyword "and" then
    return true
  else
    passKeyword "or"

/-- Looks whether nothing more can belong to a constant. -/
def operandEnds : Scan Bool := do
  if ← atEnd then
    return true
  else if (← current) == ')' then
    return true
  else
    joinerNext

/-- A constant, or nothing where its word is the name of a field. -/
def constant : Scan (Option Predicate) := do
  let start ← position
  match ← constantWord with
  | none => return none
  | some found =>
    passBlanks
    let after ← position
    if ← operandEnds then
      moveTo after
      return some found
    else
      moveTo start
      return none

/-- A group in parentheses, a constant or a comparison; `inner` scans the inside of a group. -/
def operand (inner : Scan Predicate) : Scan Predicate := do
  passBlanks
  if ← passChar '(' then
    let predicate ← inner
    passBlanks
    if ← passChar ')' then
      return predicate
    else
      refuse .expectedClosing
  else
    match ← constant with
    | some found => return found
    | none => comparison

/-- An operand after any number of negations. -/
def negations (operand : Scan Predicate) : Nat → Scan Predicate
  | 0 => stop .exhausted
  | steps + 1 => do
    passBlanks
    if ← passKeyword "not" then
      return (← negations operand steps).not
    else
      operand

/-- The later parts of a chain, joined to the earlier ones. -/
def later (connective : Connective) (part : Scan Predicate) : Nat → Predicate → Scan Predicate
  | 0, _ => stop .exhausted
  | steps + 1, earlier => do
    passBlanks
    if ← passKeyword (joiner connective) then
      let next ← part
      later connective part steps (earlier.join connective next)
    else
      return earlier

/-- One part or several with a keyword between them. -/
def chain (connective : Connective) (part : Scan Predicate) (steps : Nat) : Scan Predicate := do
  let first ← part
  later connective part steps first

/-- A whole expression; none of its loops and recursions is allowed more than `steps` steps. -/
def expression : Nat → Scan Predicate
  | 0 => stop .exhausted
  | steps + 1 =>
    chain .or
      (chain .and (negations (operand (expression steps)) (steps + 1)) (steps + 1)) (steps + 1)

/-- A predicate and nothing after it. -/
def query : Scan Predicate := do
  let predicate ← bounded expression
  passBlanks
  if ← atEnd then
    return predicate
  else
    refuse .unexpectedInput

variable {limit : Nat} {text rest : List Char}

/-! ## Conditions -/

theorem tracks_needle (test : TextTest) : Tracks limit (needle test) (readNeedle test) :=
  tracks_string.bind fun inside => .pure (Condition.finds test inside)

theorem tracks_range : Tracks limit range readRange := by
  have upper (lower : Value) :
      Tracks (limit - 1) (do return Condition.between lower (← value)) _ :=
    tracks_value.bind fun upper => .pure (Condition.between lower upper)
  have bounds : Tracks limit range _ :=
    tracks_value.bind fun lower =>
      (Tracks.ifKeyword (by decide) (upper lower) (.refuse .expectedAnd)).afterBlanks
  refine bounds.congr fun rest _ => ?_
  rw [readRange]
  refine bind_congr fun reached => ?_
  obtain ⟨lower, rest⟩ := reached
  dsimp only
  cases keyword? "and" (skipBlank rest) <;> rfl

theorem tracks_related : Tracks limit related readRelated :=
  tracks_relation.bind fun relation =>
    tracks_value.bind fun operand => .pure (Condition.relates relation operand)

theorem tracks_negated : Tracks limit negated fun rest =>
    match keyword? "contains" (skipBlank rest) with
    | some rest => readNeedle .notContains rest
    | none => .error ⟨.expectedContains, skipBlank rest⟩ :=
  (Tracks.ifKeyword (by decide) (tracks_needle .notContains)
    (.refuse .expectedContains)).afterBlanks

theorem tracks_condition : Tracks limit condition readCondition := by
  have introduced : Tracks limit condition _ :=
    (Tracks.ifKeyword (by decide) (tracks_needle .contains)
      (.ifKeyword (by decide) tracks_negated
        (.ifKeyword (by decide) (tracks_needle .beginsWith)
          (.ifKeyword (by decide) tracks_range tracks_related)))).afterBlanks
  refine introduced.congr fun rest _ => ?_
  rw [readCondition]
  simp only [introductions, List.findSome?_cons, List.findSome?_nil]
  cases keyword? "contains" (skipBlank rest) with
  | some after => rfl
  | none =>
      cases keyword? "not" (skipBlank rest) with
      | some after => rfl
      | none =>
          cases keyword? "beginswith" (skipBlank rest) with
          | some after => rfl
          | none => cases keyword? "between" (skipBlank rest) <;> rfl

theorem tracks_comparison : Tracks limit comparison readComparison :=
  tracks_name.bind fun field =>
    tracks_condition.bind fun condition => .pure (Predicate.compare field condition)

/-! ## Constants -/

/-- The reader of a constant, which leaves the text as it is where there is none. -/
def readConstant : Reader (Option Predicate) := fun rest =>
  match readConstant? rest with
  | some (found, after) => .ok (some found, after)
  | none => .ok (none, rest)

theorem tracks_constantWord : Tracks limit constantWord fun rest =>
    match keyword? "all" rest with
    | some after => .ok (some .everything, after)
    | none =>
      match keyword? "none" rest with
      | some after => .ok (some .nothing, after)
      | none => .ok (none, rest) :=
  .ifKeyword (by decide) (.pure (some Predicate.everything))
    (.ifKeyword (by decide) (.pure (some Predicate.nothing)) (.pure none))

theorem readConstant_of_filter (found : Predicate) (after : List Char)
    (same : readConstant? rest =
      (some (found, skipBlank after)).filter fun (_, rest) => endsOperand rest) :
    readConstant rest =
      .ok (if endsOperand (skipBlank after) then (some found, skipBlank after)
        else (none, rest)) := by
  rw [readConstant, same, Option.filter_some]
  dsimp only
  by_cases stops : endsOperand (skipBlank after) = true
  · rw [if_pos stops, if_pos stops]
  · rw [if_neg stops, if_neg stops]

/-- Looking ahead can go on over the keyword that it finds. -/
theorem follows_joinerNext (ends : rest <:+ text) :
    ∃ left, Follows text rest (joinerNext text (placeOf text rest))
      (.ok ((keyword? "and" rest).isSome || (keyword? "or" rest).isSome, left)) := by
  have words : Tracks (rest.length + 1) joinerNext _ :=
    .ifKeyword (by decide) (.pure true) (tracks_passKeyword "or")
  have looked := words text rest ends (Nat.lt_succ_self _)
  cases conjunction : keyword? "and" rest with
  | some after =>
      simp only [conjunction] at looked
      exact ⟨after, looked⟩
  | none =>
      simp only [conjunction, attempt_eq] at looked
      exact ⟨_, looked⟩

theorem follows_operandEnds (ends : rest <:+ text) :
    ∃ left, Follows text rest (operandEnds text (placeOf text rest))
      (.ok (endsOperand rest, left)) := by
  have here := List.suffix_refl rest
  cases rest with
  | nil => exact ⟨[], (Follows.atEnd ends here).bind_ok (.still true here)⟩
  | cons c rest =>
      by_cases closes : c = ')'
      · subst closes
        exact ⟨_, (Follows.atEnd ends here).bind_ok
          ((Follows.current ends here).bind_ok (.still true here))⟩
      · obtain ⟨left, looked⟩ := follows_joinerNext ends
        have same : endsOperand (c :: rest) =
            ((keyword? "and" (c :: rest)).isSome || (keyword? "or" (c :: rest)).isSome) := by
          rw [endsOperand] <;> simp_all
        refine ⟨left, (Follows.atEnd ends here).bind_ok ((Follows.current ends here).bind_ok ?_)⟩
        rw [List.headD_cons, if_neg (by simpa using closes), same]
        exact looked

theorem tracks_constant : Tracks limit constant readConstant := by
  intro text rest ends short
  have here := List.suffix_refl rest
  have word := tracks_constantWord text rest ends short
  -- Where a constant may end, the blanks behind its word are read; any other word is left unread.
  have goesOn {found : Predicate} {after : List Char}
      (word : Follows text rest (constantWord text (placeOf text rest)) (.ok (some found, after))) :
      Follows text rest (constant text (placeOf text rest))
        (.ok (if endsOperand (skipBlank after) then (some found, skipBlank after)
          else (none, rest))) := by
    refine (Follows.position here).bind_ok (word.bind_ok ?_)
    have blanks := tracks_passBlanks text after (word.leaves.trans ends) (Nat.lt_succ_self _)
    have left : skipBlank after <:+ rest := blanks.leaves.trans word.leaves
    refine (blanks.mono word.leaves).bind_ok ((Follows.position left).bind_ok ?_)
    obtain ⟨ahead, looked⟩ := follows_operandEnds (left.trans ends)
    refine (looked.mono left).bind_ok ?_
    cases endsOperand (skipBlank after) with
    | true => exact (Follows.moved left _).bind_ok (.still _ left)
    | false => exact (Follows.moved here _).bind_ok (.still _ here)
  cases all : keyword? "all" rest with
  | some after =>
      simp only [all] at word
      rw [readConstant_of_filter .everything after (by rw [readConstant?, all]; rfl)]
      exact goesOn word
  | none =>
      cases nothing : keyword? "none" rest with
      | some after =>
          simp only [all, nothing] at word
          rw [readConstant_of_filter .nothing after (by rw [readConstant?, all, nothing]; rfl)]
          exact goesOn word
      | none =>
          simp only [all, nothing] at word
          rw [readConstant, readConstant?, all, nothing]
          exact (Follows.position here).bind_ok (word.bind_ok (.still none here))

/-! ## Operands and chains -/

theorem tracks_operand {inner : Scan Predicate} {reader : Reader Predicate}
    (tracks : Tracks limit inner reader) :
    Tracks (limit + 1) (operand inner) (readOperand reader) := by
  have closed (predicate : Predicate) :
      Tracks limit (do passBlanks; if ← passChar ')' then return predicate else refuse _) _ :=
    (Tracks.ifChar ')' (.pure predicate) (.refuse .expectedClosing)).afterBlanks
  have goesOn (found : Option Predicate) :
      Tracks (limit + 1) (match found with | some found => pure found | none => comparison)
        (match found with
          | some found => fun rest => .ok (found, rest)
          | none => readComparison) := by
    cases found with
    | some found => exact .pure found
    | none => exact tracks_comparison
  have grouped : Tracks (limit + 1 - 1) _ _ := tracks.bind closed
  have whole : Tracks (limit + 1) (operand inner) _ :=
    (grouped.ifChar '(' (tracks_constant.bind goesOn)).afterBlanks
  refine whole.congr fun rest _ => ?_
  rw [readOperand]
  split
  next after opens =>
    rw [opens]
    refine bind_congr fun reached => ?_
    obtain ⟨predicate, rest⟩ := reached
    dsimp only
    split
    next after closes => rw [closes]; rfl
    next other => rw [isPrefixOf?_eq_none_of_ne other]
  next other =>
    rw [isPrefixOf?_eq_none_of_ne other, readConstant]
    cases readConstant? (skipBlank rest) <;> rfl

theorem readOperand_skipBlank (reader : Reader Predicate) (rest : List Char) :
    readOperand reader (skipBlank rest) = readOperand reader rest := by
  rw [readOperand, readOperand, Grammar.skipBlank_skipBlank]

section Steps

variable {scan : Scan Predicate} {reader : Reader Predicate} {fuel : Nat}

theorem tracks_negations (tracks : Tracks limit scan reader)
    (blank : ∀ rest, reader (skipBlank rest) = reader rest) (enough : limit ≤ fuel + 1) :
    Tracks limit (negations scan (fuel + 1)) (readNegations reader fuel) := by
  -- What is left behind a keyword is shorter, so the limit falls with the fuel.
  induction fuel generalizing limit with
  | zero =>
      have last : Tracks limit (negations scan 1) _ :=
        (Tracks.noKeyword (by decide) enough tracks).afterBlanks
      exact last.congr fun rest _ => (blank rest).symm
  | succ fuel ih =>
      have fewer := ih (tracks.weaken (Nat.sub_le limit 1)) (Nat.sub_le_of_le_add enough)
      have whole : Tracks limit (negations scan (fuel + 1 + 1)) _ :=
        (Tracks.ifKeyword (by decide) (fewer.bind fun predicate => .pure predicate.not)
          tracks).afterBlanks
      refine whole.congr fun rest _ => ?_
      rw [readNegations, ← blank]
      rfl

theorem tracks_later (connective : Connective) (tracks : Tracks limit scan reader)
    (enough : limit ≤ fuel + 1) (earlier : Predicate) :
    Tracks limit (later connective scan (fuel + 1) earlier)
      (readLater connective reader fuel earlier) := by
  have nonempty : (joiner connective).toList ≠ [] := by cases connective <;> decide
  induction fuel generalizing limit earlier with
  | zero => exact (Tracks.noKeyword nonempty enough (.pure earlier)).afterBlanks
  | succ fuel ih =>
      have shorter : Tracks (limit - 1) scan reader := tracks.weaken (Nat.sub_le limit 1)
      have goesOn (next : Predicate) :=
        ih shorter (Nat.sub_le_of_le_add enough) (earlier.join connective next)
      have whole : Tracks limit (later connective scan (fuel + 1 + 1) earlier) _ :=
        (Tracks.ifKeyword nonempty (shorter.bind goesOn) (.pure earlier)).afterBlanks
      exact whole.congr fun rest _ => rfl

theorem tracks_chain (connective : Connective) (tracks : Tracks limit scan reader)
    (enough : limit ≤ fuel + 1) :
    Tracks limit (chain connective scan (fuel + 1)) (readChain connective reader fuel) :=
  tracks.bind (tracks_later connective tracks enough)

end Steps

/-- As many steps are enough as there are characters, and one more. -/
theorem tracks_expression (steps : Nat) :
    Tracks steps (expression steps) (readExpression steps) := by
  induction steps with
  | zero => exact .vacuous
  | succ steps ih =>
      have negated := tracks_negations (tracks_operand ih) (readOperand_skipBlank _) (Nat.le_refl _)
      have conjunction := tracks_chain .and negated (Nat.le_refl _)
      exact tracks_chain .or conjunction (Nat.le_refl _)

/-! ## Whole queries -/

/-- The reader of the end of a query, which is known by then. -/
def readEnd (predicate : Predicate) : Reader Predicate := fun rest =>
  match skipBlank rest with
  | [] => .ok (predicate, [])
  | unread => .error ⟨.unexpectedInput, unread⟩

theorem tracks_end (predicate : Predicate) : Tracks limit
    (do passBlanks; if ← atEnd then return predicate else refuse .unexpectedInput)
    (readEnd predicate) := by
  intro text rest ends short
  have blanks := tracks_passBlanks text rest ends (Nat.lt_succ_self _)
  have left : skipBlank rest <:+ rest := blanks.leaves
  refine blanks.bind_ok ((Follows.atEnd (left.trans ends) left).bind_ok ?_)
  rw [readEnd]
  cases unread : skipBlank rest with
  | nil => exact .still predicate List.nil_suffix
  | cons c after => exact .refused .unexpectedInput (unread ▸ left)

theorem readQuery_map (text : List Char) :
    (readQuery text).map (fun predicate => (predicate, [])) =
      readExpression (text.length + 1) text >>= fun reached => readEnd reached.1 reached.2 := by
  rw [readQuery]
  cases readExpression (text.length + 1) text with
  | error fault => rfl
  | ok reached =>
      obtain ⟨predicate, rest⟩ := reached
      show Except.map _ (Except.bind (.ok (predicate, rest)) _) = readEnd predicate rest
      rw [readEnd]
      dsimp only [Except.bind]
      cases skipBlank rest <;> rfl

/-- The scan of a query follows its reading. -/
theorem follows_query (text : List Char) :
    Follows text text (query text 0) ((readQuery text).map fun predicate => (predicate, [])) := by
  have whole := (tracks_expression (text.length + 1)).bind tracks_end
  have follows := whole text text (List.suffix_refl text) (Nat.lt_succ_self _)
  have start : placeOf text text = 0 := Nat.sub_self _
  rw [start] at follows
  rw [query, bounded_bind, readQuery_map]
  exact follows

end Scan
end Cursor
end RecordQuery
