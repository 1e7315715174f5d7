import RecordQuery.Proofs.Predicate.RoundTrip

/-!
# Texts of operands without a literal

The text of a predicate that compares with an instant of a signed year is refused: the readers get
as far as that operand, and none of them takes it.
-/

namespace RecordQuery

open Text Grammar RecordQuery.Parser

theorem Value.exists_of_not_hasLiteral {value : Value} (without : ¬ value.HasLiteral) :
    ∃ instant, value = .dateTime instant ∧ ¬ instant.HasShortYear := by
  cases value with
  | dateTime instant => exact ⟨instant, rfl, without⟩
  | _ => exact absurd trivial without

namespace Grammar

/-! ## A reader is a function -/

theorem Run.unique {member : Char → Bool} (solid : ∀ c, member c = true → isBlank c = false)
    {run run' text rest rest' : List Char} (found : Run member run text rest)
    (found' : Run member run' text rest') : run = run' ∧ rest = rest' := by
  rw [run_iff solid] at found found'
  exact ⟨found.2.1.symm.trans found'.2.1, found.2.2.symm.trans found'.2.2⟩

theorem Keyword.unique {word : String} (solid : Solid word.toList) {text rest rest' : List Char}
    (keyword : Keyword word text rest) (keyword' : Keyword word text rest') : rest = rest' := by
  rw [← keyword?_skipBlank_eq_some_iff solid] at keyword keyword'
  exact Option.some.inj (keyword.symm.trans keyword')

theorem SpellsOperand.unique {value value' : Value} {text rest rest' : List Char}
    (spells : SpellsOperand value text rest) (spells' : SpellsOperand value' text rest') :
    rest = rest' := by
  rw [← readValue_eq_ok_iff] at spells spells'
  exact (Prod.mk.inj (Except.ok.inj (spells.symm.trans spells'))).2

/-! ## Operands and conditions -/

/-- An operand without a literal is not read from its text. -/
theorem not_spellsOperand_literal {value : Value} (without : ¬ value.HasLiteral)
    {rest : List Char} (closes : Closes rest) (found : Value) (after : List Char) :
    ¬ SpellsOperand found (' ' :: (value.literal ++ rest)) after := by
  obtain ⟨instant, rfl, long⟩ := Value.exists_of_not_hasLiteral without
  obtain ⟨sign, tail, signed, text_eq⟩ := Instant.exists_text_eq long
  have literal_eq : (Value.dateTime instant).literal = instant.text := rfl
  have run : Run isScalarCharacter instant.text (' ' :: (instant.text ++ rest)) rest :=
    Run.space ⟨by simp [text_eq], fun c => isScalarCharacter_of_mem_instant,
      begins_append _ rest, closes.ends rfl rfl⟩
  have uncovered : skipBlank (' ' :: (instant.text ++ rest)) =
      sign :: (padded 4 instant.date.year.natAbs ++ '-' :: tail ++ rest) := by
    rw [skipBlank_space, text_eq]
    rcases signed with rfl | rfl
    · exact skipBlank_cons rfl _
    · exact skipBlank_cons rfl _
  have other : sign ≠ '"' ∧ sign.toLower ≠ 't' ∧ sign.toLower ≠ 'f' := by
    rcases signed with rfl | rfl <;> decide
  rw [literal_eq]
  intro spells
  cases spells with
  | string quoted =>
      rw [begins_quote_iff, uncovered] at quoted
      exact other.1 (List.cons.inj quoted).1
  | true word => exact (word.leads (by decide)).skipBlank_ne_cons other.2.1 uncovered
  | false word => exact (word.leads (by decide)).skipBlank_ne_cons other.2.2 uncovered
  | scalar run' denotes =>
      obtain ⟨rfl, -⟩ := run.unique (fun _ => isBlank_of_isScalarCharacter) run'
      rw [Value.ofScalar?_eq_none_of_long long] at denotes
      contradiction

theorem Begins.symbol_unique {relation relation' : Relation} {text rest rest' : List Char}
    (begins : Begins relation.symbol text rest) (whole : rest.head? ≠ some '=')
    (begins' : Begins relation'.symbol text rest') (whole' : rest'.head? ≠ some '=') :
    rest = rest' := by
  have read := readRelation_of_begins begins whole
  rw [readRelation_of_begins begins' whole'] at read
  exact (Prod.mk.inj (Except.ok.inj read)).2.symm

theorem readRange_of_between {condition : Condition} {text after rest : List Char}
    (introduced : Keyword "between" text after) (spells : SpellsCondition condition text rest) :
    ∃ lower upper second third, condition = .between lower upper ∧
      SpellsOperand lower after second ∧ Keyword "and" second third ∧
        SpellsOperand upper third rest := by
  rw [← readCondition_eq_ok_iff,
    readCondition_of_keyword (.tail _ (.tail _ (.tail _ (.head _)))) introduced] at spells
  exact readRange_eq_ok_iff.mp spells

/-- A condition on an operand without a literal is not read from its text. -/
theorem not_spellsCondition_text {condition : Condition}
    (without : ∃ operand ∈ condition.operands, ¬ operand.HasLiteral) {rest : List Char}
    (closes : Closes rest) (found : Condition) (after : List Char) :
    ¬ SpellsCondition found (' ' :: (condition.text ++ rest)) after := by
  obtain ⟨operand, member, without⟩ := without
  intro spells
  cases condition with
  | relates relation value =>
      obtain rfl := List.mem_singleton.mp member
      rw [relates_text_append] at spells
      have sign := (begins_append relation.symbol (' ' :: (operand.literal ++ rest))).space
      rw [← readCondition_eq_ok_iff, readCondition_of_sign sign, readRelated_eq_ok_iff] at spells
      obtain ⟨relation', operand', middle, -, sign', spelled⟩ := spells
      have signAgain := begins_congr (solid_symbol relation') (skipBlank_skipBlank _) sign'
      have space : (' ' :: (operand.literal ++ rest)).head? ≠ some '=' := by simp
      obtain rfl := sign.symbol_unique space signAgain (head_ne_of_spellsOperand spelled)
      exact not_spellsOperand_literal without closes operand' after spelled
  | finds test needle =>
      obtain rfl := List.mem_singleton.mp member
      exact without trivial
  | between lower upper =>
      rw [between_text_append] at spells
      have between : "between".toList.map Char.toLower = "between".toList := by decide
      have and : "and".toList.map Char.toLower = "and".toList := by decide
      have closesLower := closes_space ("and".toList ++ ' ' :: (upper.literal ++ rest))
      obtain ⟨lower', upper', second, third, -, lowerSpelled, joined, upperSpelled⟩ :=
        readRange_of_between (keyword_word between _).space spells
      by_cases lowerLiteral : lower.HasLiteral
      · obtain rfl := (spellsOperand_literal lowerLiteral closesLower).space.unique lowerSpelled
        obtain rfl := (keyword_word and _).space.unique (by decide) joined
        rcases List.mem_cons.mp member with rfl | inTail
        · exact without lowerLiteral
        · obtain rfl := List.mem_singleton.mp inTail
          exact not_spellsOperand_literal without closes upper' after upperSpelled
      · exact not_spellsOperand_literal lowerLiteral closesLower lower' second lowerSpelled

/-! ## Readers that refuse -/

/-- The reader takes nothing from the text. -/
def Refuses (reader : Reader Predicate) (text : List Char) : Prop :=
  ∀ result, reader text ≠ .ok result

/-- The reader of units within an expression of the given fuel. -/
def readUnit (fuel : Nat) : Reader Predicate :=
  readNegations (readOperand (readExpression fuel)) fuel

/-- The reader of the parts of a chain within an expression of the given fuel. -/
def readPart (fuel : Nat) : Connective → Reader Predicate
  | .and => readUnit fuel
  | .or => readChain .and (readUnit fuel) fuel

theorem complete_readUnit (fuel : Nat) : Complete .unit (fuel + 1) (readUnit fuel) :=
  complete_readNegations (Nat.le_refl _) (complete_readOperand (complete_readExpression fuel))

theorem complete_readPart (fuel : Nat) (connective : Connective) :
    Complete (partLevel connective) (fuel + 1) (readPart fuel connective) := by
  cases connective with
  | and => exact complete_readUnit fuel
  | or => exact complete_readChain (by omega) (complete_readUnit fuel)

/-- A chain is refused with its first part. -/
theorem refuses_readChain {connective : Connective} {part : Reader Predicate} {text : List Char}
    (refuses : Refuses part text) (fuel : Nat) : Refuses (readChain connective part fuel) text := by
  intro result read
  obtain ⟨first, firstRead, -⟩ := bind_eq_ok_iff.mp read
  exact refuses first firstRead

theorem refuses_readPart {fuel : Nat} {text : List Char} (refuses : Refuses (readUnit fuel) text)
    (connective : Connective) : Refuses (readPart fuel connective) text := by
  cases connective with
  | and => exact refuses
  | or => exact refuses_readChain refuses fuel

/-- An expression is refused if it is refused as a chain of either kind. -/
theorem refuses_readExpression {fuel : Nat} {connective : Connective} {text : List Char}
    (refuses : Refuses (readChain connective (readPart fuel connective) fuel) text) :
    Refuses (readExpression (fuel + 1)) text := by
  cases connective with
  | and => exact refuses_readChain refuses fuel
  | or => exact refuses

/-- What is read after blanks does not depend on them. -/
theorem readUnit_congr {text text' : List Char} (same : skipBlank text = skipBlank text')
    (fuel : Nat) : readUnit fuel text = readUnit fuel text' := by
  have operand : readOperand (readExpression fuel) text =
      readOperand (readExpression fuel) text' := by
    unfold readOperand
    rw [same]
  unfold readUnit
  generalize readOperand (readExpression fuel) = reader at operand
  cases fuel with
  | zero => exact operand
  | succ fuel => rw [readNegations, readNegations, same, operand]

theorem readUnit_of_noNegation {text : List Char} (noNegation : ∀ after, ¬ Keyword "not" text after)
    (fuel : Nat) : readUnit fuel text = readOperand (readExpression fuel) text := by
  unfold readUnit
  generalize readOperand (readExpression fuel) = reader
  cases fuel with
  | zero => rfl
  | succ fuel => rw [readNegations, (keyword?_skipBlank_eq_none_iff (by decide)).mpr noNegation]

/-- Parentheses are refused with what stands in them. -/
theorem refuses_readOperand {inner : Reader Predicate} {text first : List Char}
    (opened : Begins ['('] text first) (refuses : Refuses inner first) :
    Refuses (readOperand inner) text := by
  intro result read
  unfold readOperand at read
  rw [(begins_iff solid_parenthesis.1 _ _).mp opened] at read
  obtain ⟨found, innerRead, -⟩ := bind_eq_ok_iff.mp read
  exact refuses found innerRead

/-- A negation is refused with the parentheses after it. -/
theorem refuses_readUnit_negation {fuel : Nat} {text middle first : List Char}
    (word : Keyword "not" text middle) (opened : Begins ['('] middle first)
    (refuses : Refuses (readExpression (fuel + 1)) first) : Refuses (readUnit (fuel + 1)) text := by
  intro result read
  have scanned := (keyword?_skipBlank_eq_some_iff (by decide)).mpr word
  have noWord := (keyword?_skipBlank_eq_none_iff (by decide)).mpr (not_keyword_opening opened)
  rw [readUnit, readNegations, scanned] at read
  obtain ⟨found, innerRead, -⟩ := bind_eq_ok_iff.mp read
  have operand := refuses_readOperand opened refuses
  cases fuel with
  | zero => exact operand found innerRead
  | succ fuel =>
      rw [readNegations, noWord] at innerRead
      exact operand found innerRead

/-! ## Predicates -/

/-- A condition on an operand without a literal cannot follow a constant either. -/
theorem not_followsConstant_text {condition : Condition}
    (without : ∃ operand ∈ condition.operands, ¬ operand.HasLiteral) (rest : List Char) :
    ¬ FollowsConstant (' ' :: (condition.text ++ rest)) := by
  cases condition with
  | relates relation operand =>
      rw [relates_text_append]
      have sign := (begins_append relation.symbol (' ' :: (operand.literal ++ rest))).space
      have leads := sign.leads (solid_symbol relation)
      cases relation <;> exact not_followsConstant_of_leads leads (by decide)
  | finds test needle =>
      obtain ⟨operand, member, without⟩ := without
      obtain rfl := List.mem_singleton.mp member
      exact absurd trivial without
  | between lower upper =>
      rw [between_text_append]
      have between : "between".toList.map Char.toLower = "between".toList := by decide
      have leads := (keyword_word between (lower.literal ++
        ' ' :: ("and".toList ++ ' ' :: (upper.literal ++ rest)))).space.leads (by decide)
      exact not_followsConstant_of_leads leads (by decide)

theorem refuses_compare {field : String} {condition : Condition} (named : IsFieldName field)
    (without : ∃ operand ∈ condition.operands, ¬ operand.HasLiteral) {rest : List Char}
    (closes : Closes rest) (fuel : Nat) :
    Refuses (readUnit fuel) ((Predicate.compare field condition).text ++ rest) := by
  intro result read
  obtain ⟨found, after⟩ := result
  have run := run_fieldName named (condition.text ++ rest)
  rw [compare_text_append, readUnit_of_noNegation (not_keyword_fieldName named _),
    readOperand_of_name run (not_followsConstant_text without rest)] at read
  obtain ⟨field', condition', middle, -, run', spelled⟩ := readComparison_eq_ok_iff.mp read
  have runAgain := run_congr (fun _ => isBlank_of_isNameCharacter) (skipBlank_skipBlank _) run'
  obtain ⟨-, rfl⟩ := run.unique (fun _ => isBlank_of_isNameCharacter) runAgain
  exact not_spellsCondition_text without closes condition' after spelled

/-- The operands of a predicate all have literals. -/
def HasLiterals (predicate : Predicate) : Prop :=
  ∀ operand ∈ predicate.operands, operand.HasLiteral

/-- The unit readers with enough fuel refuse the text of the predicate in front of everything. -/
def RefusesText (predicate : Predicate) : Prop :=
  ∀ rest, Delimits rest → ∀ fuel, (predicate.text ++ rest).length ≤ fuel →
    Refuses (readUnit fuel) (predicate.text ++ rest)

/-- A part of a group stops before the next part and before the closing parenthesis. -/
theorem stops_laterText (connective : Connective) (children : List Predicate) (rest : List Char) :
    Stops (partLevel connective) (Predicate.laterText connective children ++ ')' :: rest) := by
  cases children with
  | nil =>
      have stops := stops_of_closing (begins_append [')'] rest)
      cases connective with
      | and => exact trivial
      | or => exact stops.part
  | cons child children =>
      rw [laterText_cons_append]
      exact stops_of_keyword (keyword_joiner connective _)

/-- With literals for all its operands a predicate is printable, and its text is refused without. -/
structure Settled (predicate : Predicate) : Prop where
  /-- Its text is read back. -/
  printable : HasLiterals predicate → predicate.Printable
  /-- No unit is read from its text. -/
  refuses : ¬ HasLiterals predicate → RefusesText predicate

/-- When a part of a group is read from the text of a settled predicate, the predicate has all its
literals and the reader stops before what follows the text. -/
theorem Settled.of_readPart {child : Predicate} (settled : Settled child) {connective : Connective}
    {text following unread : List Char} {found : Predicate} {fuel : Nat}
    (delimits : Delimits following) (stops : Stops (partLevel connective) following)
    (same : skipBlank text = skipBlank (child.text ++ following)) (enough : text.length ≤ fuel)
    (enoughInside : (child.text ++ following).length ≤ fuel)
    (read : readPart fuel connective text = .ok (found, unread)) :
    HasLiterals child ∧ skipBlank unread = skipBlank following := by
  by_cases literals : HasLiterals child
  · have spelled := spells_text (settled.printable literals) delimits
    obtain ⟨unreadAgain, readAgain, sameAgain⟩ := complete_readPart fuel connective child.tree text
      following ((spelled.part connective).congr same.symm) (Nat.lt_succ_of_le enough) stops
    rw [readAgain] at read
    obtain ⟨-, rfl⟩ := Prod.mk.inj (Except.ok.inj read)
    exact ⟨literals, sameAgain⟩
  · have refused : Refuses (readUnit fuel) text := by
      intro result unitRead
      rw [readUnit_congr same] at unitRead
      exact settled.refuses literals following delimits fuel enoughInside result unitRead
    exact absurd read (refuses_readPart refused connective (found, unread))

section Group

variable {connective : Connective} {children : List Predicate} {rest : List Char} {fuel : Nat}

/-- The later parts of a group are refused with one of them. -/
theorem refuses_readLater (settled : ∀ child ∈ children, Settled child)
    (without : ∃ child ∈ children, ¬ HasLiterals child)
    (enough : (Predicate.laterText connective children ++ ')' :: rest).length ≤ fuel) {left : Nat}
    (enoughLeft : (Predicate.laterText connective children ++ ')' :: rest).length ≤ left)
    {unread : List Char}
    (same : skipBlank unread =
      skipBlank (Predicate.laterText connective children ++ ')' :: rest)) (earlier : Predicate) :
    Refuses (readLater connective (readPart fuel connective) left earlier) unread := by
  induction children generalizing earlier unread left with
  | nil =>
      obtain ⟨child, member, -⟩ := without
      simp at member
  | cons child children ih =>
      intro result read
      rw [laterText_cons_append] at same enough enoughLeft
      simp only [List.length_cons, List.length_append] at enough enoughLeft
      obtain ⟨left, rfl⟩ : ∃ fewer, left = fewer + 1 := ⟨left - 1, by omega⟩
      have joined := keyword_joiner connective
        (child.text ++ (Predicate.laterText connective children ++ ')' :: rest))
      have scanned := (keyword?_skipBlank_eq_some_iff (solid_joiner connective)).mpr joined
      rw [readLater, same, scanned] at read
      obtain ⟨⟨later, unreadLater⟩, partRead, laterRead⟩ := bind_eq_ok_iff.mp read
      obtain ⟨literals, sameAgain⟩ := (settled child List.mem_cons_self).of_readPart
        (delimits_laterText connective children (delimits_closing rest))
        (stops_laterText connective children rest) (skipBlank_space _)
        (by simp only [List.length_cons, List.length_append]; omega)
        (by simp only [List.length_cons, List.length_append]; omega) partRead
      have withoutLater : ∃ other ∈ children, ¬ HasLiterals other :=
        (List.or_exists_of_exists_mem_cons without).resolve_left (not_not_intro literals)
      exact ih (fun other member => settled other (List.mem_cons_of_mem _ member)) withoutLater
        (by simp only [List.length_append, List.length_cons]; omega)
        (by simp only [List.length_append, List.length_cons]; omega) sameAgain _ result laterRead

/-- What stands in the parentheses of a group is refused with one of its parts. -/
theorem refuses_childrenText (settled : ∀ child ∈ children, Settled child)
    (without : ∃ child ∈ children, ¬ HasLiterals child)
    (enough : (Predicate.childrenText connective children ++ ')' :: rest).length ≤ fuel) :
    Refuses (readExpression (fuel + 1))
      (Predicate.childrenText connective children ++ ')' :: rest) := by
  cases children with
  | nil =>
      obtain ⟨child, member, -⟩ := without
      simp at member
  | cons first later =>
      rw [Predicate.childrenText, List.append_assoc] at enough ⊢
      have length := enough
      simp only [List.length_append, List.length_cons] at length
      have chain : Refuses (readChain connective (readPart fuel connective) fuel)
          (first.text ++ (Predicate.laterText connective later ++ ')' :: rest)) := by
        intro result read
        obtain ⟨⟨found, unread⟩, firstRead, laterRead⟩ := bind_eq_ok_iff.mp read
        obtain ⟨literals, sameAgain⟩ := (settled first List.mem_cons_self).of_readPart
          (delimits_laterText connective later (delimits_closing rest))
          (stops_laterText connective later rest) rfl enough enough firstRead
        have withoutLater : ∃ other ∈ later, ¬ HasLiterals other :=
          (List.or_exists_of_exists_mem_cons without).resolve_left (not_not_intro literals)
        exact refuses_readLater
          (fun other member => settled other (List.mem_cons_of_mem _ member)) withoutLater
          (by simp only [List.length_append, List.length_cons]; omega)
          (by simp only [List.length_append, List.length_cons]; omega) sameAgain _ result laterRead
      exact refuses_readExpression chain

theorem refusesText_group (settled : ∀ child ∈ children, Settled child)
    (without : ∃ child ∈ children, ¬ HasLiterals child) :
    RefusesText (.group connective children) := by
  intro rest _ fuel enough result read
  rw [group_text_append] at enough read
  have opened : Begins ['('] ('(' :: (Predicate.childrenText connective children ++ ')' :: rest))
      (Predicate.childrenText connective children ++ ')' :: rest) := begins_append ['('] _
  obtain ⟨fuel, rfl⟩ : ∃ fewer, fuel = fewer + 1 := by
    rw [List.length_cons] at enough
    exact ⟨fuel - 1, by omega⟩
  have inside : Refuses (readExpression (fuel + 1))
      (Predicate.childrenText connective children ++ ')' :: rest) :=
    refuses_childrenText settled without (Nat.le_of_succ_le_succ enough)
  rw [readUnit_of_noNegation (not_keyword_opening opened)] at read
  exact refuses_readOperand opened inside result read

end Group

theorem refusesText_negation {child : Predicate} (refuses : RefusesText child) :
    RefusesText (.negation child) := by
  intro rest _ fuel enough
  rw [negation_text_append] at enough ⊢
  simp only [List.length_append, List.length_cons] at enough
  obtain ⟨fuel, rfl⟩ : ∃ fewer, fuel = fewer + 1 := ⟨fuel - 1, by omega⟩
  have unit : Refuses (readUnit fuel) (child.text ++ ')' :: rest) :=
    refuses (')' :: rest) (delimits_closing rest) fuel
      (by simp only [List.length_append, List.length_cons]; omega)
  have lower : "NOT".toList.map Char.toLower = "not".toList := by decide
  have word := keyword_word lower ('(' :: (child.text ++ ')' :: rest))
  exact refuses_readUnit_negation word (begins_append ['('] _).space
    (refuses_readExpression (refuses_readChain (refuses_readPart unit .or) fuel))

/-- The text of a flat predicate with an operand that has no literal is refused. -/
theorem refusesText_of_flat {predicate : Predicate} (flat : predicate.Flat)
    (named : ∀ comparison ∈ predicate.comparisons, IsFieldName comparison.1)
    (without : ¬ HasLiterals predicate) : RefusesText predicate := by
  induction flat with
  | @compare field condition =>
      rw [HasLiterals, Predicate.operands_compare] at without
      simp only [not_forall] at without
      obtain ⟨operand, member, missing⟩ := without
      intro rest delimits fuel _
      exact refuses_compare (named (field, condition) (.head _)) ⟨operand, member, missing⟩
        delimits.closes fuel
  | @group connective children _ _ flatChildren ih =>
      have childNamed : ∀ child ∈ children, ∀ comparison ∈ child.comparisons,
          IsFieldName comparison.1 := fun child member comparison inside =>
        named comparison (Predicate.mem_comparisons_group.mpr ⟨child, member, inside⟩)
      have childWithout : ∃ child ∈ children, ¬ HasLiterals child := by
        by_contra all
        simp only [not_exists, not_and, not_not] at all
        apply without
        intro operand member
        obtain ⟨child, listed, inside⟩ := Predicate.mem_operands_group.mp member
        exact all child listed operand inside
      refine refusesText_group (fun child member => ?_) childWithout
      exact ⟨(flatChildren child member).printable (childNamed child member),
        ih child member (childNamed child member)⟩
  | negation _ ih => exact refusesText_negation (ih named without)
  | constant => exact absurd (List.forall_mem_nil _) without

end Grammar

/-- No query is the text of a flat predicate with an operand that has no literal. -/
theorem Predicate.readQuery_text_ne_ok {predicate : Predicate} (flat : predicate.Flat)
    (named : ∀ comparison ∈ predicate.comparisons, IsFieldName comparison.1)
    (without : ¬ HasLiterals predicate) (result : Predicate) :
    Parser.readQuery predicate.text ≠ .ok result := by
  intro read
  obtain ⟨found, readAll, -⟩ := bind_eq_ok_iff.mp read
  have unit := refusesText_of_flat flat named without [] delimits_nil predicate.text.length
  rw [List.append_nil] at unit
  have part := refuses_readPart (unit (Nat.le_refl _)) .or
  exact refuses_readExpression (refuses_readChain part predicate.text.length) found readAll

end RecordQuery
