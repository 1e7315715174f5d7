import RecordQuery.Proofs.Grammar.Parse
import RecordQuery.Proofs.Predicate.Spelling

/-!
# What the parser gives

A predicate that is read from a text is flat, has proper names of fields and compares with no case
of an enumeration.
-/

namespace RecordQuery

open Text Grammar RecordQuery.Parser

namespace Value

theorem ne_enum_of_ofScalar? {run : List Char} {value : Value}
    (denotes : ofScalar? run = some value) (case : String) : value ≠ .enum case := by
  rintro rfl
  simp only [ofScalar?, Option.or_eq_some_iff, Option.map_eq_some_iff, reduceCtorEq, and_false,
    exists_false, false_or] at denotes
  obtain ⟨-, -, -, number⟩ := denotes
  unfold ofNumber? at number
  split at number
  · simp at number
  · split at number
    · simp at number
    · simp [Option.bind_eq_some_iff] at number

theorem ne_enum_of_spellsOperand {value : Value} {text rest : List Char}
    (spells : SpellsOperand value text rest) (case : String) : value ≠ .enum case := by
  cases spells with
  | scalar _ denotes => exact ne_enum_of_ofScalar? denotes case
  | string | true | false => simp

end Value

theorem Condition.ne_enum_of_spells {condition : Condition} {text rest : List Char}
    (spells : SpellsCondition condition text rest) {operand : Value}
    (member : operand ∈ condition.operands) (case : String) : operand ≠ .enum case := by
  cases spells with
  | relates _ spelled =>
      rw [List.mem_singleton.mp member]
      exact Value.ne_enum_of_spellsOperand spelled case
  | finds =>
      rw [List.mem_singleton.mp member]
      simp
  | between _ lower _ upper =>
      rcases List.mem_cons.mp member with rfl | inTail
      · exact Value.ne_enum_of_spellsOperand lower case
      · rw [List.mem_singleton.mp inTail]
        exact Value.ne_enum_of_spellsOperand upper case

namespace Grammar

/-- A name that is not read as a negation is that of a field. -/
theorem isFieldName_of_run {name : String} {text middle : List Char}
    (named : Run isNameCharacter name.toList text middle)
    (noNegation : ∀ after, ¬ Keyword "not" text after) : IsFieldName name := by
  obtain ⟨nonempty, characters, begins, ends⟩ := named
  refine ⟨nonempty, characters, fun lower => ?_⟩
  have negated : Ends continuesWord (name.toList.drop 3 ++ middle) →
      Keyword "not" text (name.toList.drop 3 ++ middle) := by
    intro wordEnds
    refine ⟨name.toList.take 3, lower, ?_, wordEnds⟩
    obtain ⟨blanks, blank, text_eq⟩ := begins
    have whole : name.toList.take 3 ++ (name.toList.drop 3 ++ middle) = name.toList ++ middle := by
      rw [← List.append_assoc, List.take_append_drop]
    exact ⟨blanks, blank, by rw [whole, text_eq]⟩
  cases back : name.toList.drop 3 with
  | nil =>
      rw [back, List.nil_append] at negated
      exact absurd (negated (ends_continuesWord_iff.mpr (.inl ends))) (noNegation _)
  | cons c more =>
      refine ⟨List.cons_ne_nil _ _, fun dash => ?_⟩
      rw [back] at negated
      exact absurd (negated (ends_continuesWord_iff.mpr (.inr dash))) (noNegation _)

end Grammar

namespace Predicate

/-- The laws of the predicates that are read from a text. -/
structure Accepted (predicate : Predicate) : Prop where
  /-- Groups are as long and as deep as they have to be. -/
  flat : predicate.Flat
  /-- Every comparison has the name of a field. -/
  named : ∀ comparison ∈ predicate.comparisons, IsFieldName comparison.1
  /-- No text stands for a case of an enumeration. -/
  noCase : ∀ operand ∈ predicate.operands, ∀ case, operand ≠ Value.enum case

theorem Accepted.join {left right : Predicate} (leftLaws : left.Accepted)
    (rightLaws : right.Accepted) (connective : Connective) :
    (left.join connective right).Accepted where
  flat := leftLaws.flat.join rightLaws.flat connective
  named := by
    rw [comparisons_join]
    exact List.forall_mem_append.mpr ⟨leftLaws.named, rightLaws.named⟩
  noCase := by
    rw [operands, comparisons_join, List.flatMap_append]
    exact List.forall_mem_append.mpr ⟨leftLaws.noCase, rightLaws.noCase⟩

/-- Every phrase means a predicate of that kind, if no negation is read for a bare primary. -/
theorem accepted_of_spells {level : Level} {tree : Tree} {text rest : List Char}
    (spells : Spells level tree text rest)
    (noNegation : level = .primary → ∀ after, ¬ Keyword "not" text after) :
    tree.meaning.Accepted := by
  induction spells with
  | @comparison field condition _ _ _ named conditioned =>
      have fieldName := isFieldName_of_run named (noNegation rfl)
      refine ⟨.compare, ?_, ?_⟩
      · intro comparison member
        rw [List.mem_singleton.mp member]
        exact fieldName
      · intro operand member
        rw [Tree.meaning, operands_compare] at member
        exact Condition.ne_enum_of_spells conditioned member
  | constant => exact ⟨.constant, List.forall_mem_nil _, List.forall_mem_nil _⟩
  | parentheses _ _ _ ih => exact ih nofun
  | negation _ _ ih =>
      have laws := ih nofun
      exact ⟨.negation laws.flat, laws.named, laws.noCase⟩
  | primary noWord _ ih => exact ih fun _ => noWord
  | @single connective _ _ _ _ ih => exact ih (by cases connective <;> nofun)
  | @chain connective _ _ _ _ _ _ _ _ _ earlier later =>
      exact (earlier nofun).join (later (by cases connective <;> nofun)) connective

theorem accepted_of_readQuery {text : List Char} {predicate : Predicate}
    (read : Parser.readQuery text = .ok predicate) : predicate.Accepted := by
  obtain ⟨tree, ⟨rest, spelled, -⟩, rfl⟩ := Parser.readQuery_eq_ok_iff.mp read
  exact accepted_of_spells spelled nofun

end Predicate
end RecordQuery
