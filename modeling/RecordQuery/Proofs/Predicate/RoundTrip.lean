import RecordQuery.Proofs.Grammar.Parse
import RecordQuery.Proofs.Predicate.Spelling

/-!
# Written predicates read back

The text of a printable predicate is read as the meaning of its syntax tree.  For a flat predicate
whose operands are read back as themselves that is the predicate.
-/

namespace RecordQuery

open Grammar

/-- The operand is read back from its literal as itself: it is no case of an enumeration, no NaN,
and no instant whose year does not have four digits. -/
def Value.IsPlain : Value → Prop
  | .enum _ => False
  | .double value => value.isNaN = false
  | .dateTime instant => instant.HasShortYear
  | _ => True

namespace Value

instance (value : Value) : Decidable value.IsPlain :=
  match value with
  | .enum _ => inferInstanceAs (Decidable False)
  | .double value => inferInstanceAs (Decidable (value.isNaN = false))
  | .dateTime instant => inferInstanceAs (Decidable instant.HasShortYear)
  | .bool _ | .int _ | .string _ | .date _ | .time _ => inferInstanceAs (Decidable True)

theorem IsPlain.hasLiteral {value : Value} (plain : value.IsPlain) : value.HasLiteral := by
  cases value with
  | dateTime instant => exact plain
  | _ => trivial

theorem IsPlain.reread {value : Value} (plain : value.IsPlain) : value.reread = value := by
  cases value with
  | enum case => exact plain.elim
  | double value =>
      have number : value.isNaN = false := plain
      rw [Value.reread, number, if_neg Bool.false_ne_true]
  | _ => rfl

end Value

theorem Condition.reread_eq_self {condition : Condition}
    (same : ∀ operand ∈ condition.operands, operand.reread = operand) :
    condition.reread = condition := by
  cases condition with
  | relates relation operand => rw [reread, same operand (.head _)]
  | finds test needle => rfl
  | between lower upper => rw [reread, same lower (.head _), same upper (.tail _ (.head _))]

namespace Predicate

/-- A text that is a unit and nothing more is read as the meaning of its syntax tree. -/
theorem readQuery_of_spells {tree : Tree} {text : List Char} (spelled : Spells .unit tree text []) :
    Parser.readQuery text = .ok tree.meaning := by
  rw [Parser.readQuery_eq_ok_iff]
  exact ⟨tree, ⟨[], (spelled.part .or).expression, [], List.forall_mem_nil _, rfl⟩, rfl⟩

/-- The text of a printable predicate is read as the meaning of its syntax tree. -/
theorem readQuery_text {predicate : Predicate} (printable : predicate.Printable) :
    Parser.readQuery predicate.text = .ok predicate.tree.meaning := by
  have spelled := spells_text printable delimits_nil
  rw [List.append_nil] at spelled
  exact readQuery_of_spells spelled

theorem parse_toString_eq_ok_iff {predicate result : Predicate} :
    parse (toString predicate) = .ok result ↔ Parser.readQuery predicate.text = .ok result := by
  have text_eq : (toString predicate).toList = predicate.text := String.toList_ofList
  rw [parse_eq_ok_iff_readQuery, text_eq]

/-- A chain means its parts joined from the left. -/
theorem meaning_laterTree {connective : Connective} {children : List Predicate}
    (meanings : ∀ child ∈ children, child.tree.meaning = child) (earlier : Tree) :
    (laterTree connective earlier children).meaning =
      children.foldl (fun joined child => joined.join connective child) earlier.meaning := by
  induction children generalizing earlier with
  | nil => rfl
  | cons child children ih =>
      have meaning := meanings child List.mem_cons_self
      rw [laterTree, ih fun other member => meanings other (List.mem_cons_of_mem _ member),
        List.foldl_cons, Tree.meaning, meaning]

/-- The syntax tree of a flat predicate with plain operands means the predicate. -/
theorem Flat.meaning_tree {predicate : Predicate} (flat : Flat predicate)
    (plain : ∀ operand ∈ predicate.operands, operand.IsPlain) :
    predicate.tree.meaning = predicate := by
  induction flat with
  | @compare field condition =>
      rw [operands_compare] at plain
      rw [tree, Tree.meaning,
        Condition.reread_eq_self fun operand member => (plain operand member).reread]
  | @group connective children enough areParts _ ih =>
      have meanings : ∀ child ∈ children, child.tree.meaning = child :=
        fun child member => ih child member fun operand inside =>
          plain operand (mem_operands_group.mpr ⟨child, member, inside⟩)
      cases children with
      | nil => simp at enough
      | cons first later =>
          have nonempty : later ≠ [] := by
            rintro rfl
            simp at enough
          have firstAlone := parts_of_isPart (areParts first List.mem_cons_self)
          rw [tree, Tree.meaning, childrenTree, meaning_laterTree fun child member =>
            meanings child (List.mem_cons_of_mem _ member), meanings first List.mem_cons_self,
            foldl_join nonempty fun child member => areParts child (List.mem_cons_of_mem _ member),
            firstAlone, List.singleton_append]
  | negation _ ih => rw [tree, Tree.meaning, Tree.meaning, ih plain, Predicate.not]
  | constant => rfl

/-- A flat predicate with proper names and operands that have literals is printable. -/
theorem Flat.printable {predicate : Predicate} (flat : Flat predicate)
    (named : ∀ comparison ∈ predicate.comparisons, IsFieldName comparison.1)
    (literals : ∀ operand ∈ predicate.operands, operand.HasLiteral) : predicate.Printable := by
  induction flat with
  | @compare field condition =>
      rw [operands_compare] at literals
      exact .compare (named (field, condition) (.head _)) literals
  | @group connective children enough _ _ ih =>
      refine .group (by rintro rfl; simp at enough) fun child member => ih child member ?_ ?_
      · exact fun comparison inside =>
          named comparison (mem_comparisons_group.mpr ⟨child, member, inside⟩)
      · exact fun operand inside =>
          literals operand (mem_operands_group.mpr ⟨child, member, inside⟩)
  | negation _ ih => exact .negation (ih named literals)
  | constant => exact .constant

/-- A flat predicate with proper names and plain operands is read back from its text. -/
theorem readQuery_text_of_flat {predicate : Predicate} (flat : Flat predicate)
    (named : ∀ comparison ∈ predicate.comparisons, IsFieldName comparison.1)
    (plain : ∀ operand ∈ predicate.operands, operand.IsPlain) :
    Parser.readQuery predicate.text = .ok predicate := by
  have printable := flat.printable named fun operand member => (plain operand member).hasLiteral
  rw [readQuery_text printable, flat.meaning_tree plain]

end Predicate
end RecordQuery
