import RecordQuery.Proofs.Predicate.Accepted
import RecordQuery.Proofs.Predicate.RoundTrip

/-!
# Which predicates are read from a text

However a text is parenthesised, it is read as a flat predicate with proper names of fields, and
each operand of the predicate is one that a text can spell.  Conversely every predicate of this kind
is read from some text, which is put together phrase by phrase: the parts of a group are joined by
its keyword and put in parentheses.
-/

namespace RecordQuery

open Text Grammar RecordQuery.Parser

/-- Some text spells the value as an operand. -/
def Value.IsDenoted (value : Value) : Prop :=
  ∃ text rest, SpellsOperand value text rest

namespace Grammar

/-! ## What a spelling compares with -/

theorem isDenoted_of_spellsCondition {condition : Condition} {text rest : List Char}
    (spells : SpellsCondition condition text rest) :
    ∀ operand ∈ condition.operands, operand.IsDenoted := by
  intro operand member
  cases spells with
  | relates _ spelled =>
      rw [List.mem_singleton.mp member]
      exact ⟨_, _, spelled⟩
  | finds _ quoted =>
      rw [List.mem_singleton.mp member]
      exact ⟨_, _, .string quoted⟩
  | between _ lower _ upper =>
      rcases List.mem_cons.mp member with rfl | inTail
      · exact ⟨_, _, lower⟩
      · rw [List.mem_singleton.mp inTail]
        exact ⟨_, _, upper⟩

/-- Every operand of what a phrase means is spelled in it. -/
theorem isDenoted_of_spells {level : Level} {tree : Tree} {text rest : List Char}
    (spells : Spells level tree text rest) :
    ∀ operand ∈ tree.meaning.operands, operand.IsDenoted := by
  induction spells with
  | comparison _ conditioned =>
      rw [Tree.meaning, Predicate.operands_compare]
      exact isDenoted_of_spellsCondition conditioned
  | constant => exact List.forall_mem_nil _
  | parentheses _ _ _ ih => exact ih
  | negation _ _ ih => exact ih
  | primary _ _ ih => exact ih
  | single _ ih => exact ih
  | chain _ _ _ earlier later =>
      rw [Tree.meaning, Predicate.operands, Predicate.comparisons_join, List.flatMap_append]
      exact List.forall_mem_append.mpr ⟨earlier, later⟩

/-! ## A spelling for every phrase -/

/-- A value that some text spells is spelled in front of everything that closes an operand. -/
theorem exists_spelledOperand {value : Value} (denoted : value.IsDenoted) :
    ∃ spelled, ∀ rest, Closes rest → SpellsOperand value (spelled ++ rest) rest := by
  obtain ⟨text, after, spells⟩ := denoted
  cases spells with
  | @string inside =>
      exact ⟨quote inside.toList, fun rest _ => .string (begins_append _ rest)⟩
  | true => exact ⟨"true".toList, fun rest closes => .true (keyword_append rfl closes)⟩
  | false => exact ⟨"false".toList, fun rest closes => .false (keyword_append rfl closes)⟩
  | @scalar run _ _ _ found denotes =>
      exact ⟨run, fun rest closes => spellsOperand_scalar found.2.1 closes denotes⟩

theorem exists_spelledCondition {condition : Condition}
    (denoted : ∀ operand ∈ condition.operands, operand.IsDenoted) :
    ∃ spelled, ∀ rest, Closes rest →
      SpellsCondition condition (' ' :: (spelled ++ rest)) rest := by
  cases condition with
  | relates relation operand =>
      obtain ⟨spelled, spells⟩ := exists_spelledOperand (denoted operand (.head _))
      refine ⟨relation.symbol ++ ' ' :: spelled, fun rest closes => ?_⟩
      rw [List.append_assoc, List.cons_append]
      exact .relates (begins_append _ _).space (spells rest closes).space
  | finds test needle =>
      refine ⟨(Condition.finds test needle).text, fun rest _ => ?_⟩
      rw [finds_text_append]
      exact .finds (keywords_words test _) (begins_append _ rest).space
  | between lower upper =>
      obtain ⟨first, spellsLower⟩ := exists_spelledOperand (denoted lower (.head _))
      obtain ⟨second, spellsUpper⟩ := exists_spelledOperand (denoted upper (.tail _ (.head _)))
      refine ⟨"between".toList ++ ' ' :: (first ++ ' ' :: ("and".toList ++ ' ' :: second)),
        fun rest closes => ?_⟩
      simp only [List.append_assoc, List.cons_append]
      exact .between (keyword_word rfl _).space (spellsLower _ (closes_space _)).space
        (keyword_word rfl _).space (spellsUpper rest closes).space

/-- In front of everything that delimits a predicate the text is a phrase of the level. -/
def Stands (level : Level) (tree : Tree) (text : List Char) : Prop :=
  ∀ rest, Delimits rest → Spells level tree (text ++ rest) rest

section Stands

variable {tree : Tree} {text : List Char}

theorem Spells.space {level : Level} {rest : List Char} (spells : Spells level tree text rest) :
    Spells level tree (' ' :: text) rest :=
  spells.congr (skipBlank_space text).symm

theorem stands_comparison {field : String} {condition : Condition} (named : IsFieldName field)
    (spells : ∀ rest, Closes rest → SpellsCondition condition (' ' :: (text ++ rest)) rest) :
    Stands .unit (.comparison field condition) (field.toList ++ ' ' :: text) := by
  intro rest delimits
  rw [List.append_assoc, List.cons_append]
  exact .primary (not_keyword_fieldName named _)
    (.comparison (run_fieldName named _) (spells rest delimits.closes))

theorem stands_constant (value : Bool) :
    Stands .unit (.constant value) (Predicate.constant value).text :=
  fun _ delimits => spells_text .constant delimits

theorem Stands.negation (stands : Stands .unit tree text) :
    Stands .unit (.negation tree) ("NOT".toList ++ ' ' :: text) := by
  intro rest delimits
  rw [List.append_assoc, List.cons_append]
  exact .negation (keyword_word rfl _) (stands rest delimits).space

theorem Stands.single (stands : Stands .unit tree text) (connective : Connective) :
    Stands (.chain connective) tree text :=
  fun rest delimits => .single ((stands rest delimits).part connective)

theorem Stands.enclosed {connective : Connective} (stands : Stands (.chain connective) tree text) :
    Stands .unit (.parentheses tree) ('(' :: (text ++ [')'])) := by
  intro rest _
  rw [List.cons_append, List.append_assoc]
  exact (stands _ (delimits_closing rest)).expression.enclosed

theorem delimits_joiner (connective : Connective) (rest : List Char) :
    Delimits (' ' :: (connective.keyword ++ ' ' :: rest)) :=
  ⟨closes_space _, .inr (.inr ⟨connective, _, keyword_joiner connective rest⟩)⟩

theorem Stands.chain {connective : Connective} (stands : Stands (.chain connective) tree text)
    {later : Tree} {spelled : List Char} (part : Stands .unit later spelled) :
    Stands (.chain connective) (.chain connective tree later)
      (text ++ ' ' :: (connective.keyword ++ ' ' :: spelled)) := by
  intro rest delimits
  simp only [List.append_assoc, List.cons_append]
  exact .chain (stands _ (delimits_joiner connective _)) (keyword_joiner connective _)
    ((part rest delimits).part connective).space

end Stands
end Grammar

/-! ## A text for every predicate -/

namespace Predicate

/-- Some unit means the predicate, and a text stands for it. -/
def Spellable (predicate : Predicate) : Prop :=
  ∃ tree text, Stands .unit tree text ∧ tree.meaning = predicate

/-- A chain can be continued by parts that have a spelling. -/
theorem exists_stands_chain {connective : Connective} {later : List Predicate}
    (spellable : ∀ part ∈ later, part.Spellable) {earlier : Tree} {text : List Char}
    (stands : Stands (.chain connective) earlier text) :
    ∃ tree text, Stands (.chain connective) tree text ∧
      tree.meaning =
        later.foldl (fun joined part => joined.join connective part) earlier.meaning := by
  induction later generalizing earlier text with
  | nil => exact ⟨earlier, text, stands, rfl⟩
  | cons part later ih =>
      obtain ⟨⟨tree, spelled, standsPart, rfl⟩, others⟩ := List.forall_mem_cons.mp spellable
      exact ih others (stands.chain standsPart)

/-- A flat predicate has a spelling if its comparisons have one. -/
theorem Flat.spellable {predicate : Predicate} (flat : Flat predicate)
    (named : ∀ comparison ∈ predicate.comparisons, IsFieldName comparison.1)
    (denoted : ∀ operand ∈ predicate.operands, operand.IsDenoted) : predicate.Spellable := by
  induction flat with
  | @compare field condition =>
      rw [operands_compare] at denoted
      obtain ⟨spelled, spells⟩ := exists_spelledCondition denoted
      exact ⟨.comparison field condition, _,
        stands_comparison (named (field, condition) (.head _)) spells, rfl⟩
  | @group connective children enough areParts _ ih =>
      have spellable : ∀ child ∈ children, child.Spellable := by
        refine fun child member => ih child member ?_ ?_
        · exact fun comparison inside =>
            named comparison (mem_comparisons_group.mpr ⟨child, member, inside⟩)
        · exact fun operand inside =>
            denoted operand (mem_operands_group.mpr ⟨child, member, inside⟩)
      cases children with
      | nil => simp at enough
      | cons first later =>
          have nonempty : later ≠ [] := by
            rintro rfl
            simp at enough
          have firstAlone := parts_of_isPart (areParts first List.mem_cons_self)
          obtain ⟨⟨tree, text, stands, meaning⟩, others⟩ := List.forall_mem_cons.mp spellable
          obtain ⟨chain, _, standsChain, joined⟩ :=
            exists_stands_chain others (stands.single connective)
          refine ⟨.parentheses chain, _, standsChain.enclosed, ?_⟩
          rw [Tree.meaning, joined, meaning,
            foldl_join nonempty fun child member => areParts child (List.mem_cons_of_mem _ member),
            firstAlone, List.singleton_append]
  | negation _ ih =>
      obtain ⟨tree, text, stands, rfl⟩ := ih named denoted
      exact ⟨.negation tree, _, stands.negation, rfl⟩
  | @constant value => exact ⟨.constant value, _, stands_constant value, rfl⟩

/-- The predicates that are read from some text are exactly the flat ones with proper names of
fields whose operands can be spelled; no case of an enumeration can. -/
theorem exists_parse_eq_ok_iff (predicate : Predicate) :
    (∃ text, parse text = .ok predicate) ↔
      predicate.Accepted ∧ ∀ operand ∈ predicate.operands, operand.IsDenoted := by
  simp only [parse_eq_ok_iff_readQuery]
  constructor
  · rintro ⟨text, read⟩
    obtain ⟨tree, ⟨rest, spelled, -⟩, rfl⟩ := Parser.readQuery_eq_ok_iff.mp read
    exact ⟨accepted_of_spells spelled nofun, isDenoted_of_spells spelled⟩
  · rintro ⟨laws, denoted⟩
    obtain ⟨tree, text, stands, rfl⟩ := laws.flat.spellable laws.named denoted
    have spelled := stands [] delimits_nil
    rw [List.append_nil] at spelled
    refine ⟨String.ofList text, ?_⟩
    rw [String.toList_ofList]
    exact readQuery_of_spells spelled

/-- The parentheses of a conjunction in a conjunction leave no group behind. -/
example : parse "(a = 1 and (b = 2 and (c = 3))) or (d = 4 or e = 5)" =
    .ok (.group .or
      [.group .and [.compare "a" (.relates .eq (.int 1)), .compare "b" (.relates .eq (.int 2)),
          .compare "c" (.relates .eq (.int 3))],
        .compare "d" (.relates .eq (.int 4)), .compare "e" (.relates .eq (.int 5))]) := by
  rfl

end Predicate
end RecordQuery
