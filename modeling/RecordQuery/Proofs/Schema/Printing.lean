import RecordQuery.Proofs.Predicate.Reparse
import RecordQuery.Proofs.Schema.Binding

/-!
# Writing bound predicates

A case is written like its text, so binding leaves the text of a predicate as it is.  A query that was
read and bound is therefore read from its own text as it was before binding, and binding it again
finds the same cases.
-/

namespace RecordQuery

namespace Value

/-- A text and the case of it are written alike. -/
theorem literal_enum_of_caseText? {operand : Value} {text : String}
    (named : operand.caseText? = some text) : (Value.enum text).literal = operand.literal := by
  cases operand with
  | string | enum =>
      obtain rfl := Option.some.inj named
      rfl
  | _ => cases named

theorem hasLiteral_of_short {operand : Value}
    (short : ∀ instant, operand = .dateTime instant → instant.HasShortYear) :
    operand.HasLiteral := by
  cases operand with
  | dateTime instant => exact short instant rfl
  | _ => trivial

end Value

namespace Field.Binds

variable {field : Field} {condition bound : Condition}

theorem text_eq (binds : field.Binds condition bound) : bound.text = condition.text := by
  cases binds with
  | unchanged => rfl
  | @case relation _ _ _ _ binds =>
      rcases bindCase_eq_ok_iff.mp binds with ⟨text, -, named, rfl⟩ | ⟨-, rfl⟩
      · exact congrArg (relation.symbol ++ ' ' :: ·) (Value.literal_enum_of_caseText? named)
      · rfl

/-- Binding replaces no operand but texts and cases. -/
theorem mem_operands (binds : field.Binds condition bound) {operand : Value}
    (member : operand ∈ condition.operands) (noText : operand.caseText? = none) :
    operand ∈ bound.operands := by
  cases binds with
  | unchanged => exact member
  | case _ _ binds =>
      obtain rfl := List.mem_singleton.mp member
      rcases bindCase_eq_ok_iff.mp binds with ⟨text, -, named, rfl⟩ | ⟨-, rfl⟩
      · rw [noText] at named
        cases named
      · exact member

end Field.Binds

namespace Predicate

theorem laterText_congr (connective : Connective) {children others : List Predicate}
    (same : List.Forall₂ (fun child other => other.text = child.text) children others) :
    laterText connective others = laterText connective children := by
  induction same with
  | nil => rfl
  | cons equal _ ih => rw [laterText, laterText, equal, ih]

theorem childrenText_congr (connective : Connective) {children others : List Predicate}
    (same : List.Forall₂ (fun child other => other.text = child.text) children others) :
    childrenText connective others = childrenText connective children := by
  cases same with
  | nil => rfl
  | cons equal same => rw [childrenText, childrenText, equal, laterText_congr connective same]

end Predicate

namespace Schema

variable {schema : Schema} {predicate bound : Predicate}

/-- Binding leaves the text of a predicate as it is. -/
theorem text_of_bind (binds : schema.bind predicate = .ok bound) : bound.text = predicate.text := by
  refine bind_induction (motive := fun predicate bound => bound.text = predicate.text)
    ?compare ?group ?negation ?constant binds
  case compare =>
    intro name field condition bound _ binds
    exact congrArg (name.toList ++ ' ' :: ·) (Field.bindCondition_eq_ok_iff.mp binds).2.text_eq
  case group =>
    intro connective children bound same
    exact congrArg ('(' :: · ++ [')']) (Predicate.childrenText_congr connective same)
  case negation =>
    intro child bound same
    exact congrArg ("NOT (".toList ++ · ++ [')']) same
  case constant =>
    intro value
    rfl

/-- Binding keeps every operand but texts and cases. -/
theorem mem_operands_of_bind (binds : schema.bind predicate = .ok bound) {operand : Value}
    (noText : operand.caseText? = none) (member : operand ∈ predicate.operands) :
    operand ∈ bound.operands := by
  refine bind_induction (motive := fun predicate bound =>
    operand ∈ predicate.operands → operand ∈ bound.operands)
    ?compare ?group ?negation ?constant binds member
  case compare =>
    intro name field condition bound _ binds member
    rw [Predicate.operands_compare] at member ⊢
    exact (Field.bindCondition_eq_ok_iff.mp binds).2.mem_operands member noText
  case group =>
    intro connective children bound keeps member
    obtain ⟨child, listed, inside⟩ := Predicate.mem_operands_group.mp member
    obtain ⟨other, otherListed, keepsChild⟩ := exists_mem_of_forall₂ keeps listed
    exact Predicate.mem_operands_group.mpr ⟨other, otherListed, keepsChild inside⟩
  case negation =>
    intro child bound keeps
    exact keeps
  case constant =>
    intro value member
    exact member

/-- The operands of a query that is bound are read back as themselves when those of the bound one
are, cases apart. -/
theorem isPlain_of_bind (accepted : predicate.Accepted) (binds : schema.bind predicate = .ok bound)
    (noNaN : ∀ value, Value.double value ∈ bound.operands → value.isNaN = false)
    (short : ∀ instant, Value.dateTime instant ∈ bound.operands → instant.HasShortYear)
    {operand : Value} (member : operand ∈ predicate.operands) : operand.IsPlain := by
  cases noText : operand.caseText? with
  | some text =>
      cases operand with
      | string => trivial
      | enum case => exact absurd rfl (accepted.noCase _ member case)
      | _ => cases noText
  | none =>
      have kept : operand ∈ bound.operands := mem_operands_of_bind binds noText member
      have hasLiteral : operand.HasLiteral :=
        Value.hasLiteral_of_short fun instant same => short instant (same ▸ kept)
      exact Predicate.isPlain_of_hasLiteral hasLiteral (accepted.noCase operand member)
        fun value same => noNaN value (same ▸ kept)

/-- A query that is read and bound, with no NaN and with instants of short years, is written as it
was before binding.  From that text the same query is read, and it is bound to the same cases. -/
theorem bind_of_parse_toString {text : String}
    (accepted : Predicate.parse text = .ok predicate) (binds : schema.bind predicate = .ok bound)
    (noNaN : ∀ value, Value.double value ∈ bound.operands → value.isNaN = false)
    (short : ∀ instant, Value.dateTime instant ∈ bound.operands → instant.HasShortYear) :
    toString bound = toString predicate ∧
      ∃ reread, Predicate.parse (toString bound) = .ok reread ∧ reread = predicate ∧
        schema.bind reread = .ok bound := by
  have laws : predicate.Accepted :=
    Predicate.accepted_of_readQuery (Predicate.parse_eq_ok_iff_readQuery.mp accepted)
  have text_eq : bound.text = predicate.text := text_of_bind binds
  have read : Parser.readQuery bound.text = .ok predicate := by
    rw [text_eq]
    exact Predicate.readQuery_text_of_flat laws.flat laws.named
      fun operand => isPlain_of_bind laws binds noNaN short
  exact ⟨congrArg String.ofList text_eq, predicate, Predicate.parse_toString_eq_ok_iff.mpr read, rfl,
    binds⟩

theorem bind_of_parse_toString_statusQuery :
    Predicate.parse "not status != \"draft\" and rating = \"high\"" =
        .ok (statusQuery (.string "draft")) ∧
      postSchema.bind (statusQuery (.string "draft")) = .ok (statusQuery (.enum "draft")) ∧
      Predicate.parse (toString (statusQuery (.enum "draft"))) =
        .ok (statusQuery (.string "draft")) := by
  have accepted : Predicate.parse "not status != \"draft\" and rating = \"high\"" =
      .ok (statusQuery (.string "draft")) := by rfl
  have binds : postSchema.bind (statusQuery (.string "draft")) =
      .ok (statusQuery (.enum "draft")) := by rfl
  have operands : (statusQuery (.enum "draft")).operands = [.enum "draft", .string "high"] := by rfl
  obtain ⟨-, reread, read, rfl, -⟩ := bind_of_parse_toString accepted binds
    (by simp [operands]) (by simp [operands])
  exact ⟨accepted, binds, read⟩

end Schema
end RecordQuery
