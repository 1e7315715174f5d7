import Mathlib.Data.List.Basic
import RecordQuery.Proofs.Grammar.Leaves

/-!
# Reading conditions and comparisons

A condition is introduced by one of four keywords or by the sign of a relation.  No keyword begins
another one, and no sign begins like a keyword, so the order in which they are tried matters only
for the signs `<` and `>`: each is the beginning of another sign, but of no operand.
-/

namespace RecordQuery
namespace Parser

open Text Grammar

/-! ## Signs -/

theorem isPrefixOf?_eq_some_iff {front text rest : List Char} :
    front.isPrefixOf? text = some rest ↔ text = front ++ rest := by
  induction front generalizing text with
  | nil => simp [List.isPrefixOf?, eq_comm]
  | cons c front ih =>
      cases text with
      | nil => simp [List.isPrefixOf?]
      | cons d text =>
          rw [List.isPrefixOf?, Option.ite_none_right_eq_some, beq_iff_eq, ih, List.cons_append,
            List.cons.injEq, eq_comm (a := c)]

theorem solid_symbol (relation : Relation) : Solid relation.symbol := by
  cases relation <;> decide

theorem begins_symbol_of_readRelation {relation : Relation} {text rest : List Char}
    (read : readRelation text = .ok (relation, rest)) : Begins relation.symbol text rest := by
  rw [begins_iff (solid_symbol relation)]
  simp only [readRelation] at read
  split at read
  · rename_i found
    rw [Except.ok.inj read] at found
    obtain ⟨tried, -, scanned⟩ := List.exists_of_findSome?_eq_some found
    obtain ⟨after, front, same⟩ := Option.map_eq_some_iff.mp scanned
    obtain ⟨rfl, rfl⟩ := Prod.mk.inj same
    exact isPrefixOf?_eq_some_iff.mp front
  · simp at read

/-- A sign is read where it is not the beginning of a longer one. -/
theorem readRelation_of_begins {relation : Relation} {text rest : List Char}
    (begins : Begins relation.symbol text rest) (whole : rest.head? ≠ some '=') :
    readRelation text = .ok (relation, rest) := by
  rw [begins_iff (solid_symbol relation)] at begins
  simp only [readRelation, begins]
  cases rest with
  | nil => cases relation <;> rfl
  | cons c rest =>
      have different : ('=' == c) = false := by
        rw [beq_eq_false_iff_ne]
        rintro rfl
        exact whole rfl
      cases relation <;>
        simp [relationsBySign, Relation.symbol, List.isPrefixOf?, different]

/-- No operand begins like the end of a sign. -/
theorem head_ne_of_spellsOperand {value : Value} {text rest : List Char}
    (spells : SpellsOperand value text rest) : text.head? ≠ some '=' := by
  intro head
  obtain ⟨tail, rfl⟩ := List.head?_eq_some_iff.mp head
  have uncovered : skipBlank ('=' :: tail) = '=' :: tail := skipBlank_cons rfl tail
  cases spells with
  | string quoted =>
      rw [begins_quote_iff, uncovered] at quoted
      exact absurd (List.cons.inj quoted).1 (by decide)
  | true word =>
      exact (word.leads (by decide)).skipBlank_ne_cons (by decide) uncovered
  | false word =>
      exact (word.leads (by decide)).skipBlank_ne_cons (by decide) uncovered
  | scalar found =>
      obtain ⟨c, run, -, inside, same⟩ :=
        found.exists_skipBlank_eq fun _ => isBlank_of_isScalarCharacter
      rw [uncovered] at same
      rw [← (List.cons.inj same).1] at inside
      exact absurd inside (by decide)

theorem readRelated_eq_ok_iff {condition : Condition} {text rest : List Char} :
    readRelated text = .ok (condition, rest) ↔
      ∃ relation operand middle, condition = .relates relation operand ∧
        Begins relation.symbol text middle ∧ SpellsOperand operand middle rest := by
  simp only [readRelated, bind_eq_ok_iff]
  constructor
  · rintro ⟨⟨relation, middle⟩, sign, ⟨operand, after⟩, operandRead, same⟩
    obtain ⟨rfl, rfl⟩ := Prod.mk.inj (Except.ok.inj same)
    exact ⟨relation, operand, middle, rfl, begins_symbol_of_readRelation sign,
      readValue_eq_ok_iff.mp operandRead⟩
  · rintro ⟨relation, operand, middle, rfl, sign, spells⟩
    exact ⟨(relation, middle), readRelation_of_begins sign (head_ne_of_spellsOperand spells), (operand, rest),
      readValue_eq_ok_iff.mpr spells, rfl⟩

/-! ## Conditions after a keyword -/

theorem readNeedle_eq_ok_iff {test : TextTest} {condition : Condition} {text rest : List Char} :
    readNeedle test text = .ok (condition, rest) ↔
      ∃ needle, condition = .finds test needle ∧ Begins (quote needle.toList) text rest := by
  simp only [readNeedle, bind_eq_ok_iff]
  constructor
  · rintro ⟨⟨needle, after⟩, literal, same⟩
    obtain ⟨rfl, rfl⟩ := Prod.mk.inj (Except.ok.inj same)
    exact ⟨needle, rfl, readString_eq_ok_iff.mp literal⟩
  · rintro ⟨needle, rfl, literal⟩
    exact ⟨(needle, rest), readString_eq_ok_iff.mpr literal, rfl⟩

theorem readRange_eq_ok_iff {condition : Condition} {text rest : List Char} :
    readRange text = .ok (condition, rest) ↔
      ∃ lower upper second third, condition = .between lower upper ∧
        SpellsOperand lower text second ∧ Keyword "and" second third ∧
          SpellsOperand upper third rest := by
  have solid : Solid "and".toList := by decide
  simp only [readRange, bind_eq_ok_iff]
  constructor
  · rintro ⟨⟨lower, second⟩, lowerRead, read⟩
    split at read
    · simp at read
    · rename_i third joined
      obtain ⟨⟨upper, after⟩, upperRead, same⟩ := bind_eq_ok_iff.mp read
      obtain ⟨rfl, rfl⟩ := Prod.mk.inj (Except.ok.inj same)
      exact ⟨lower, upper, second, third, rfl, readValue_eq_ok_iff.mp lowerRead,
        (keyword?_skipBlank_eq_some_iff solid).mp joined, readValue_eq_ok_iff.mp upperRead⟩
  · rintro ⟨lower, upper, second, third, rfl, lowerSpelled, joined, upperSpelled⟩
    refine ⟨(lower, second), readValue_eq_ok_iff.mpr lowerSpelled, ?_⟩
    rw [(keyword?_skipBlank_eq_some_iff solid).mpr joined]
    exact bind_eq_ok_iff.mpr ⟨(upper, rest), readValue_eq_ok_iff.mpr upperSpelled, rfl⟩

/-- After `not` only `contains` introduces a condition. -/
theorem readNotContains_eq_ok_iff {condition : Condition} {text rest : List Char} :
    (match keyword? "contains" (skipBlank text) with
      | some after => readNeedle .notContains after
      | none => .error ⟨.expectedContains, skipBlank text⟩) = .ok (condition, rest) ↔
      ∃ needle middle, condition = .finds .notContains needle ∧ Keyword "contains" text middle ∧
        Begins (quote needle.toList) middle rest := by
  have solid : Solid "contains".toList := by decide
  constructor
  · intro read
    split at read
    · rename_i middle second
      obtain ⟨needle, rfl, literal⟩ := readNeedle_eq_ok_iff.mp read
      exact ⟨needle, middle, rfl, (keyword?_skipBlank_eq_some_iff solid).mp second, literal⟩
    · simp at read
  · rintro ⟨needle, middle, rfl, second, literal⟩
    rw [(keyword?_skipBlank_eq_some_iff solid).mpr second]
    exact readNeedle_eq_ok_iff.mpr ⟨needle, rfl, literal⟩

/-! ## Conditions -/

theorem solid_of_mem_introductions {word : String} {reader : Reader Condition}
    (listed : (word, reader) ∈ introductions) : Solid word.toList := by
  have all : ∀ introduction ∈ introductions, Solid introduction.1.toList := by
    simp only [introductions, List.forall_mem_cons]
    decide
  exact all _ listed

/-- The reader that belongs to a keyword reads what follows the keyword. -/
theorem readCondition_of_keyword {word : String} {reader : Reader Condition}
    (listed : (word, reader) ∈ introductions) {text after : List Char}
    (introduced : Keyword word text after) : readCondition text = reader after := by
  have solid := solid_of_mem_introductions listed
  have scanned := (keyword?_skipBlank_eq_some_iff solid).mpr introduced
  have leads := introduced.leads solid
  have other : ∀ earlier : String, Solid earlier.toList →
      ¬ earlier.toList <+: word.toList ∧ ¬ word.toList <+: earlier.toList →
        keyword? earlier (skipBlank text) = none :=
    fun earlier earlierSolid apart => keyword?_eq_none_of_leads earlierSolid leads apart
  simp only [introductions, List.mem_cons, Prod.mk.injEq, List.not_mem_nil, or_false] at listed
  rcases listed with ⟨rfl, rfl⟩ | ⟨rfl, rfl⟩ | ⟨rfl, rfl⟩ | ⟨rfl, rfl⟩
  · simp [readCondition, introductions, scanned]
  · simp [readCondition, introductions, scanned, other "contains" (by decide) (by decide)]
  · simp [readCondition, introductions, scanned, other "contains" (by decide) (by decide),
      other "not" (by decide) (by decide)]
  · simp [readCondition, introductions, scanned, other "contains" (by decide) (by decide),
      other "not" (by decide) (by decide), other "beginswith" (by decide) (by decide)]

/-- A text that begins with a sign has none of the keywords. -/
theorem readCondition_of_sign {relation : Relation} {text rest : List Char}
    (sign : Begins relation.symbol text rest) : readCondition text = readRelated (skipBlank text) := by
  have leads := sign.leads (solid_symbol relation)
  have noWord : ∀ introduction ∈ introductions,
      (keyword? introduction.1 (skipBlank text)).map introduction.2 = none := by
    rintro ⟨word, reader⟩ listed
    have apart : ¬ word.toList <+: relation.symbol.map Char.toLower ∧
        ¬ relation.symbol.map Char.toLower <+: word.toList := by
      simp only [introductions, List.mem_cons, Prod.mk.injEq, List.not_mem_nil, or_false] at listed
      rcases listed with ⟨rfl, -⟩ | ⟨rfl, -⟩ | ⟨rfl, -⟩ | ⟨rfl, -⟩ <;> cases relation <;> decide
    rw [keyword?_eq_none_of_leads (solid_of_mem_introductions listed) leads apart]
    rfl
  simp only [readCondition]
  rw [List.findSome?_eq_none_iff.mpr noWord]

theorem keywords_singleton_iff {word : String} {text rest : List Char} :
    Keywords [word] text rest ↔ Keyword word text rest := by
  constructor
  · rintro (_ | ⟨first, _ | _⟩)
    exact first
  · intro first
    exact .cons first .nil

theorem keywords_pair_iff {word word' : String} {text rest : List Char} :
    Keywords [word, word'] text rest ↔
      ∃ middle, Keyword word text middle ∧ Keyword word' middle rest := by
  constructor
  · rintro (_ | ⟨first, words⟩)
    exact ⟨_, first, keywords_singleton_iff.mp words⟩
  · rintro ⟨middle, first, second⟩
    exact .cons first (keywords_singleton_iff.mpr second)

theorem spellsCondition_of_readCondition {condition : Condition} {text rest : List Char}
    (read : readCondition text = .ok (condition, rest)) : SpellsCondition condition text rest := by
  simp only [readCondition] at read
  split at read
  · rename_i found
    obtain ⟨⟨word, reader⟩, listed, scanned⟩ := List.exists_of_findSome?_eq_some found
    obtain ⟨after, keyword, rfl⟩ := Option.map_eq_some_iff.mp scanned
    have introduced :=
      (keyword?_skipBlank_eq_some_iff (solid_of_mem_introductions listed)).mp keyword
    simp only [introductions, List.mem_cons, Prod.mk.injEq, List.not_mem_nil, or_false] at listed
    rcases listed with ⟨rfl, rfl⟩ | ⟨rfl, rfl⟩ | ⟨rfl, rfl⟩ | ⟨rfl, rfl⟩
    · obtain ⟨needle, rfl, literal⟩ := readNeedle_eq_ok_iff.mp read
      exact .finds (keywords_singleton_iff.mpr introduced) literal
    · obtain ⟨needle, middle, rfl, second, literal⟩ := readNotContains_eq_ok_iff.mp read
      exact .finds (keywords_pair_iff.mpr ⟨_, introduced, second⟩) literal
    · obtain ⟨needle, rfl, literal⟩ := readNeedle_eq_ok_iff.mp read
      exact .finds (keywords_singleton_iff.mpr introduced) literal
    · obtain ⟨lower, upper, second, third, rfl, spelled⟩ := readRange_eq_ok_iff.mp read
      exact .between introduced spelled.1 spelled.2.1 spelled.2.2
  · obtain ⟨relation, operand, middle, rfl, sign, spelled⟩ := readRelated_eq_ok_iff.mp read
    exact .relates (begins_congr (solid_symbol relation) (skipBlank_skipBlank text) sign) spelled

theorem readCondition_of_spellsCondition {condition : Condition} {text rest : List Char}
    (spells : SpellsCondition condition text rest) :
    readCondition text = .ok (condition, rest) := by
  cases spells with
  | relates sign spelled =>
      have signAgain := begins_congr (solid_symbol _) (skipBlank_skipBlank text).symm sign
      rw [readCondition_of_sign sign]
      exact readRelated_eq_ok_iff.mpr ⟨_, _, _, rfl, signAgain, spelled⟩
  | @finds test needle _ _ _ words literal =>
      cases test with
      | contains =>
          rw [readCondition_of_keyword (.head _) (keywords_singleton_iff.mp words)]
          exact readNeedle_eq_ok_iff.mpr ⟨needle, rfl, literal⟩
      | notContains =>
          obtain ⟨after, first, second⟩ := keywords_pair_iff.mp words
          rw [readCondition_of_keyword (.tail _ (.head _)) first]
          exact readNotContains_eq_ok_iff.mpr ⟨needle, _, rfl, second, literal⟩
      | beginsWith =>
          rw [readCondition_of_keyword (.tail _ (.tail _ (.head _)))
            (keywords_singleton_iff.mp words)]
          exact readNeedle_eq_ok_iff.mpr ⟨needle, rfl, literal⟩
  | between introduced lower joined upper =>
      rw [readCondition_of_keyword (.tail _ (.tail _ (.tail _ (.head _)))) introduced]
      exact readRange_eq_ok_iff.mpr ⟨_, _, _, _, rfl, lower, joined, upper⟩

/-- The reader of conditions accepts the conditions of the grammar. -/
theorem readCondition_eq_ok_iff {condition : Condition} {text rest : List Char} :
    readCondition text = .ok (condition, rest) ↔ SpellsCondition condition text rest :=
  ⟨spellsCondition_of_readCondition, readCondition_of_spellsCondition⟩

end Parser
end RecordQuery
