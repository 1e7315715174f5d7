import RecordQuery.Predicate.Printer
import RecordQuery.Proofs.Grammar.Literal
import RecordQuery.Proofs.Grammar.Soundness
import RecordQuery.Proofs.Predicate.Structure

/-!
# A written predicate spells its own syntax tree

`Predicate.tree` is the syntax tree that the writer has in mind: a group is a chain in parentheses
and a negated predicate stands in parentheses.  The text of every printable predicate is a spelling
of it.
-/

namespace RecordQuery

open Text Grammar RecordQuery.Parser

/-- The name of a field can stand before a condition: it is a run of name characters that does not
begin with the word `not`, in any letter case, alone or directly before a dash. -/
structure IsFieldName (name : String) : Prop where
  /-- There is a character. -/
  nonempty : name.toList ≠ []
  /-- All characters are those of names. -/
  characters : ∀ c ∈ name.toList, isNameCharacter c = true
  /-- The name is not read as a negation. -/
  noNegation : (name.toList.take 3).map Char.toLower = "not".toList →
    name.toList.drop 3 ≠ [] ∧ (name.toList.drop 3).head? ≠ some '-'

instance (name : String) : Decidable (IsFieldName name) :=
  decidable_of_iff (name.toList ≠ [] ∧ name.toList.all isNameCharacter = true ∧
      ((name.toList.take 3).map Char.toLower = "not".toList →
        name.toList.drop 3 ≠ [] ∧ (name.toList.drop 3).head? ≠ some '-'))
    ⟨fun laws => ⟨laws.1, List.all_eq_true.mp laws.2.1, laws.2.2⟩,
      fun laws => ⟨laws.1, List.all_eq_true.mpr laws.2, laws.3⟩⟩

/-- The condition that is read back from the text of a condition. -/
def Condition.reread : Condition → Condition
  | .relates relation operand => .relates relation operand.reread
  | .finds test needle => .finds test needle
  | .between lower upper => .between lower.reread upper.reread

namespace Predicate

mutual

/-- The syntax tree of the text of a predicate. -/
def tree : Predicate → Tree
  | .compare field condition => .comparison field condition.reread
  | .group connective children => .parentheses (childrenTree connective children)
  | .negation child => .negation (.parentheses child.tree)
  | .constant value => .constant value

/-- The chain of the parts of a group.  The writer has nothing to write for a group without any,
for which this is a constant. -/
def childrenTree (connective : Connective) : List Predicate → Tree
  | [] => .constant !connective.decisive
  | child :: children => laterTree connective child.tree children

/-- The chain that is continued by further parts. -/
def laterTree (connective : Connective) (earlier : Tree) : List Predicate → Tree
  | [] => earlier
  | child :: children => laterTree connective (.chain connective earlier child.tree) children

end

/-- Every group has a part, every name is that of a field, and every operand has a literal. -/
inductive Printable : Predicate → Prop where
  | compare {field : String} {condition : Condition} : IsFieldName field →
      (∀ operand ∈ condition.operands, operand.HasLiteral) → Printable (.compare field condition)
  | group {connective : Connective} {children : List Predicate} : children ≠ [] →
      (∀ child ∈ children, Printable child) → Printable (.group connective children)
  | negation {child : Predicate} : Printable child → Printable (.negation child)
  | constant {value : Bool} : Printable (.constant value)

end Predicate

namespace Grammar

/-! ## Texts before more text -/

theorem relates_text_append (relation : Relation) (operand : Value) (rest : List Char) :
    (Condition.relates relation operand).text ++ rest =
      relation.symbol ++ ' ' :: (operand.literal ++ rest) :=
  List.append_assoc _ _ _

theorem finds_text_append (test : TextTest) (needle : String) (rest : List Char) :
    (Condition.finds test needle).text ++ rest =
      test.words ++ ' ' :: (quote needle.toList ++ rest) :=
  List.append_assoc _ _ _

theorem between_text_append (lower upper : Value) (rest : List Char) :
    (Condition.between lower upper).text ++ rest =
      "between".toList ++ ' ' :: (lower.literal ++
        ' ' :: ("and".toList ++ ' ' :: (upper.literal ++ rest))) := by
  calc (Condition.between lower upper).text ++ rest
      = "between".toList ++ [' '] ++ lower.literal ++ (' ' :: ("and".toList ++ [' '])) ++
          upper.literal ++ rest := rfl
    _ = _ := by simp only [List.append_assoc, List.cons_append, List.nil_append]

theorem compare_text_append (field : String) (condition : Condition) (rest : List Char) :
    (Predicate.compare field condition).text ++ rest =
      field.toList ++ ' ' :: (condition.text ++ rest) :=
  List.append_assoc _ _ _

theorem group_text_append (connective : Connective) (children : List Predicate)
    (rest : List Char) : (Predicate.group connective children).text ++ rest =
      '(' :: (Predicate.childrenText connective children ++ ')' :: rest) :=
  congrArg ('(' :: ·) (List.append_assoc _ _ _)

theorem laterText_cons_append (connective : Connective) (child : Predicate)
    (children : List Predicate) (rest : List Char) :
    Predicate.laterText connective (child :: children) ++ rest =
      ' ' :: (connective.keyword ++
        ' ' :: (child.text ++ (Predicate.laterText connective children ++ rest))) := by
  simp only [Predicate.laterText, List.cons_append, List.append_assoc]

theorem negation_text_append (child : Predicate) (rest : List Char) :
    (Predicate.negation child).text ++ rest =
      "NOT".toList ++ ' ' :: '(' :: (child.text ++ ')' :: rest) := by
  calc (Predicate.negation child).text ++ rest
      = "NOT".toList ++ [' ', '('] ++ child.text ++ [')'] ++ rest := rfl
    _ = _ := by simp only [List.append_assoc, List.cons_append, List.nil_append]

/-! ## What follows a text -/

/-- What may follow a written predicate: it closes an operand and may follow a constant. -/
structure Delimits (rest : List Char) : Prop where
  /-- No word and no operand goes on. -/
  closes : Closes rest
  /-- A constant before it is one. -/
  follows : FollowsConstant rest

theorem delimits_nil : Delimits [] where
  closes := by
    intro c head
    simp at head
  follows := .inl ⟨[], List.forall_mem_nil _, rfl⟩

theorem delimits_closing (rest : List Char) : Delimits (')' :: rest) where
  closes := by
    intro c head
    exact .inr (Option.some.inj head).symm
  follows := .inr (.inl ⟨rest, begins_append [')'] rest⟩)

theorem closes_space (rest : List Char) : Closes (' ' :: rest) := by
  intro c head
  exact .inl (Option.some.inj head).symm

/-- The keyword of a connective between spaces. -/
theorem keyword_joiner (connective : Connective) (rest : List Char) :
    Keyword (joiner connective) (' ' :: (connective.keyword ++ ' ' :: rest)) (' ' :: rest) := by
  have lower : connective.keyword.map Char.toLower = (joiner connective).toList := by
    cases connective <;> decide
  exact (keyword_append lower (closes_space rest)).space

theorem delimits_laterText (connective : Connective) (children : List Predicate)
    {rest : List Char} (delimits : Delimits rest) :
    Delimits (Predicate.laterText connective children ++ rest) := by
  cases children with
  | nil => exact delimits
  | cons child children =>
      have joined := keyword_joiner connective
        (child.text ++ (Predicate.laterText connective children ++ rest))
      rw [laterText_cons_append]
      exact ⟨closes_space _, .inr (.inr ⟨connective, _, joined⟩)⟩

/-! ## Conditions -/

/-- A word of a condition, a space and what follows. -/
theorem keyword_word {word : String} {spelled : List Char}
    (lower : spelled.map Char.toLower = word.toList) (rest : List Char) :
    Keyword word (spelled ++ ' ' :: rest) (' ' :: rest) :=
  keyword_append lower (closes_space rest)

theorem keywords_words (test : TextTest) (rest : List Char) :
    Keywords test.keywords (' ' :: (test.words ++ ' ' :: rest)) (' ' :: rest) := by
  cases test with
  | contains => exact .cons (keyword_word rfl rest).space .nil
  | notContains =>
      have words : TextTest.notContains.words = "not".toList ++ ' ' :: "contains".toList := by
        decide
      rw [words, List.append_assoc, List.cons_append]
      exact .cons (keyword_word rfl _).space
        (.cons (keyword_word rfl rest).space .nil)
  | beginsWith => exact .cons (keyword_word rfl rest).space .nil

/-- The text of a condition spells it as it is read back. -/
theorem spellsCondition_text {condition : Condition}
    (literals : ∀ operand ∈ condition.operands, operand.HasLiteral) {rest : List Char}
    (closes : Closes rest) :
    SpellsCondition condition.reread (' ' :: (condition.text ++ rest)) rest := by
  cases condition with
  | relates relation operand =>
      have operandSpelled := spellsOperand_literal (literals operand (.head _)) closes
      rw [relates_text_append]
      exact .relates (begins_append _ _).space operandSpelled.space
  | finds test needle =>
      rw [finds_text_append]
      exact .finds (keywords_words test _) (begins_append _ rest).space
  | between lower upper =>
      have lowerSpelled := spellsOperand_literal (literals lower (.head _))
        (closes_space ("and".toList ++ ' ' :: (upper.literal ++ rest)))
      have upperSpelled := spellsOperand_literal (literals upper (.tail _ (.head _))) closes
      rw [between_text_append]
      exact .between (keyword_word rfl _).space lowerSpelled.space
        (keyword_word rfl _).space upperSpelled.space

/-! ## Predicates -/

theorem skipBlank_space (text : List Char) : skipBlank (' ' :: text) = skipBlank text :=
  List.dropWhile_cons_of_pos rfl

theorem run_fieldName {name : String} (named : IsFieldName name) (rest : List Char) :
    Run isNameCharacter name.toList (name.toList ++ ' ' :: rest) (' ' :: rest) :=
  ⟨named.nonempty, named.characters, begins_append _ _, ends_cons.mpr rfl⟩

/-- The name of a field is not read as a negation. -/
theorem not_keyword_fieldName {name : String} (named : IsFieldName name) (rest after : List Char) :
    ¬ Keyword "not" (name.toList ++ ' ' :: rest) after := by
  intro word
  obtain ⟨spelled, more, lower, name_eq, -, ended⟩ :=
    name_eq_of_keyword (by decide) (by decide) (run_fieldName named rest) word
  have three : spelled.length = 3 := by
    have lengths := congrArg List.length lower
    simpa using lengths
  have front : name.toList.take 3 = spelled := by rw [name_eq, ← three, List.take_left]
  have back : name.toList.drop 3 = more := by rw [name_eq, ← three, List.drop_left]
  have apart := named.noNegation (by rw [front, lower])
  rw [back] at apart
  rcases ended with empty | dash
  · exact apart.1 empty
  · exact apart.2 dash

theorem not_keyword_of_leads {front text : List Char} (leads : Leads front text)
    (apart : ¬ "not".toList <+: front ∧ ¬ front <+: "not".toList) :
    ∀ after, ¬ Keyword "not" text after := by
  have solid : Solid "not".toList := by decide
  rw [← keyword?_skipBlank_eq_none_iff solid]
  exact keyword?_eq_none_of_leads solid leads apart

theorem not_keyword_opening {text rest : List Char} (opened : Begins ['('] text rest) :
    ∀ after, ¬ Keyword "not" text after :=
  not_keyword_of_leads (opened.leads solid_parenthesis.1) (by decide)

theorem Spells.part {tree : Tree} {text rest : List Char} (spells : Spells .unit tree text rest)
    (connective : Connective) : Spells (partLevel connective) tree text rest := by
  cases connective with
  | and => exact spells
  | or => exact .single spells

theorem Spells.expression {connective : Connective} {tree : Tree} {text rest : List Char}
    (spells : Spells (.chain connective) tree text rest) : Spells (.chain .or) tree text rest := by
  cases connective with
  | and => exact .single spells
  | or => exact spells

/-- An expression in parentheses is a unit. -/
theorem Spells.enclosed {tree : Tree} {text rest : List Char}
    (spells : Spells (.chain .or) tree text (')' :: rest)) :
    Spells .unit (.parentheses tree) ('(' :: text) rest :=
  .primary (not_keyword_opening (begins_append ['('] text))
    (.parentheses (begins_append ['('] text) spells (begins_append [')'] rest))

/-- Further parts lengthen a chain. -/
theorem spells_laterTree {connective : Connective} {children : List Predicate} {rest : List Char}
    (delimits : Delimits rest)
    (spelled : ∀ child ∈ children, ∀ after, Delimits after →
      Spells .unit child.tree (child.text ++ after) after) {earlier : Tree} {text : List Char}
    (chain : Spells (.chain connective) earlier text
      (Predicate.laterText connective children ++ rest)) :
    Spells (.chain connective) (Predicate.laterTree connective earlier children) text rest := by
  induction children generalizing earlier with
  | nil => exact chain
  | cons child children ih =>
      have childSpelled := spelled child List.mem_cons_self
        (Predicate.laterText connective children ++ rest)
        (delimits_laterText connective children delimits)
      have partSpelled := (childSpelled.part connective).congr
        (skipBlank_space (child.text ++ (Predicate.laterText connective children ++ rest))).symm
      rw [Predicate.laterTree]
      apply ih fun other member => spelled other (List.mem_cons_of_mem _ member)
      rw [laterText_cons_append] at chain
      exact .chain chain (keyword_joiner connective _) partSpelled

/-- The text of a printable predicate spells its syntax tree. -/
theorem spells_text {predicate : Predicate} (printable : predicate.Printable) {rest : List Char}
    (delimits : Delimits rest) :
    Spells .unit predicate.tree (predicate.text ++ rest) rest := by
  induction printable generalizing rest with
  | @compare field condition named literals =>
      have conditionSpelled := spellsCondition_text literals delimits.closes
      rw [compare_text_append]
      exact .primary (not_keyword_fieldName named _)
        (.comparison (run_fieldName named _) conditionSpelled)
  | @group connective children nonempty _ ih =>
      cases children with
      | nil => exact absurd rfl nonempty
      | cons first later =>
          have closing := delimits_closing rest
          have firstSpelled := ih first List.mem_cons_self
            (delimits_laterText connective later closing)
          have chain := spells_laterTree closing
            (fun child member after => ih child (List.mem_cons_of_mem _ member))
            (.single (firstSpelled.part connective))
          rw [group_text_append, Predicate.childrenText, List.append_assoc]
          exact chain.expression.enclosed
  | @negation child _ ih =>
      have childSpelled := ih (delimits_closing rest)
      have enclosed := (childSpelled.part .or).expression.enclosed
      have spaced := enclosed.congr (skipBlank_space ('(' :: (child.text ++ ')' :: rest))).symm
      have word : Keyword "not" ("NOT".toList ++ ' ' :: '(' :: (child.text ++ ')' :: rest))
          (' ' :: '(' :: (child.text ++ ')' :: rest)) := keyword_word rfl _
      rw [negation_text_append]
      exact .negation word spaced
  | @constant value =>
      have word : Keyword (constantWord value) ((Predicate.constant value).text ++ rest) rest := by
        cases value with
        | true => exact keyword_append rfl delimits.closes
        | false => exact keyword_append rfl delimits.closes
      have leads := word.leads (solid_constantWord value)
      have apart : ¬ "not".toList <+: (constantWord value).toList ∧
          ¬ (constantWord value).toList <+: "not".toList := by
        cases value <;> decide
      exact .primary (not_keyword_of_leads leads apart) (.constant word delimits.follows)

end Grammar
end RecordQuery
