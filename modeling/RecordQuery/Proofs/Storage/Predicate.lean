import RecordQuery.Proofs.Predicate.Structure
import RecordQuery.Proofs.Storage.Value
import RecordQuery.Storage.Predicate

/-!
# Stored predicates read back

Every predicate is read back from the document that stores it, with every constructor, operator and
operand and at every depth of nesting, and so is every value on its own.
-/

namespace RecordQuery

open Storage

/-! ## Conditions -/

namespace Condition

theorem choice?_operator (condition : Condition) :
    choice? Operator.all Operator.name (.string condition.operator.name) =
      some condition.operator :=
  condition.operator.ofName?_name

/-- The operand of a condition stands for it by its operator. -/
theorem ofOperand?_operandDocument (condition : Condition) :
    ofOperand? condition.operator condition.operandDocument = some condition := by
  cases condition with
  | relates relation operand =>
      simp only [operator, operandDocument, ofOperand?, Value.ofStored?_toDocument,
        Option.map_some]
  | finds test needle => rfl
  | between lower upper =>
      have bounds : contents? ["start", "end"]
          (entries [("start", lower.toDocument), ("end", upper.toDocument)]) =
            some [lower.toDocument, upper.toDocument] :=
        contents?_entries rfl (by decide)
      rw [operator, operandDocument, ofOperand?]
      simp only [entries, List.map_cons, List.map_nil] at bounds
      simp only [bounds, Option.bind_eq_bind, Option.bind_some, Value.ofStored?_toDocument,
        Option.pure_def]

/-- A condition is read back from its document. -/
theorem ofStored?_toDocument (condition : Condition) :
    ofStored? condition.toDocument = some condition := by
  have pair := readPair?_form (by decide : "op" ≠ "operand") condition.choice?_operator
    condition.operandDocument
  rw [ofStored?, toDocument, pair]
  exact condition.ofOperand?_operandDocument

theorem isUntagged_toDocument (condition : Condition) :
    condition.toDocument.isUntagged = true := by
  refine isUntagged_form (List.forall_mem_singleton.mpr ?_)
  cases condition with
  | relates relation operand => exact operand.isUntagged_toDocument
  | finds test needle => rfl
  | between lower upper =>
      have bounds : (Document.mapping (entries [("start", lower.toDocument),
          ("end", upper.toDocument)])).isUntagged = true :=
        isUntagged_mapping_entries.mpr (by simp [Value.isUntagged_toDocument])
      exact bounds

end Condition

/-! ## Predicates -/

namespace Shape

theorem choice?_name (shape : Shape) : choice? all name (.string shape.name) = some shape := by
  rcases shape with _ | connective | _ | _
  · rfl
  · cases connective <;> rfl
  · rfl
  · rfl

theorem nodup_keys (shape : Shape) : shape.keys.Nodup := by
  cases shape <;> simp [keys]

/-- No argument stands under the key of the constructor. -/
theorem type_notMem_keys (shape : Shape) : "type" ∉ shape.keys := by
  cases shape <;> simp [keys]

theorem isString_eq_false_of_mem_entries {shape : Shape} {arguments : List (String × Document)}
    (keys_eq : arguments.map (·.1) = shape.keys) {entry : Document × Document}
    (member : entry ∈ entries arguments) : entry.1.isString "type" = false := by
  obtain ⟨argument, listed, rfl⟩ := List.mem_map.mp member
  have known : argument.1 ∈ shape.keys := keys_eq ▸ List.mem_map_of_mem listed
  exact beq_false_of_ne fun same => shape.type_notMem_keys (same ▸ known)

/-- A form is read as its constructor and its arguments. -/
theorem read?_form (shape : Shape) (arguments : List (String × Document))
    (keys_eq : arguments.map (·.1) = shape.keys) :
    read? (form "type" shape.name arguments) = some (shape, arguments.map (·.2)) := by
  have others : (entries arguments).filter (fun entry => entry.1.isString "type") = [] := by
    rw [List.filter_eq_nil_iff]
    intro entry member
    simp [isString_eq_false_of_mem_entries keys_eq member]
  have all : (entries arguments).filter (not ∘ fun entry => entry.1.isString "type") =
      entries arguments := by
    rw [List.filter_eq_self]
    intro entry member
    simp [isString_eq_false_of_mem_entries keys_eq member]
  have split : (entries (("type", .string shape.name) :: arguments)).partition
      (fun entry => entry.1.isString "type") =
        ([(.string "type", .string shape.name)], entries arguments) := by
    rw [List.partition_eq_filter_filter]
    change ((.string "type", .string shape.name) :: (entries arguments).filter _,
      (entries arguments).filter _) = _
    rw [others, all]
  rw [form_eq, read?]
  simp only [split, choice?_name, contents?_entries keys_eq shape.nodup_keys,
    Option.bind_eq_bind, Option.bind_some, Option.pure_def]

end Shape

namespace Predicate

theorem childrenDocuments_eq_map (children : List Predicate) :
    childrenDocuments children = children.map toDocument := by
  induction children with
  | nil => rfl
  | cons child children ih => rw [childrenDocuments, ih, List.map_cons]

/-! ### Depth -/

theorem exists_eq_succ {predicate : Predicate} {depth : Nat}
    (enough : predicate.toDocument.depth ≤ depth) : ∃ below, depth = below + 1 := by
  apply Nat.exists_eq_succ_of_ne_zero
  rintro rfl
  cases predicate <;> cases enough

theorem depth_lt_group {connective : Connective} {children : List Predicate} {child : Predicate}
    (member : child ∈ children) :
    child.toDocument.depth < (group connective children).toDocument.depth := by
  have inItems : child.toDocument ∈ childrenDocuments children := by
    rw [childrenDocuments_eq_map]
    exact List.mem_map_of_mem member
  calc child.toDocument.depth
      ≤ Document.itemsDepth (childrenDocuments children) := depth_le_itemsDepth inItems
    _ < (Document.sequence (childrenDocuments children)).depth := Nat.lt_succ_self _
    _ < (group connective children).toDocument.depth :=
        depth_lt_form (List.mem_singleton_self ("children", _))

theorem depth_lt_negation (child : Predicate) :
    child.toDocument.depth < (negation child).toDocument.depth :=
  depth_lt_form (List.mem_singleton_self ("child", child.toDocument))

/-- A predicate is read back from its document if it may be as deep as the document. -/
theorem ofStored?_toDocument {predicate : Predicate} {depth : Nat}
    (enough : predicate.toDocument.depth ≤ depth) :
    ofStored? depth predicate.toDocument = some predicate := by
  induction predicate generalizing depth with
  | compare field condition =>
      obtain ⟨below, rfl⟩ := exists_eq_succ enough
      have shape := Shape.read?_form .compare
        [("field", .string field), ("operator", condition.toDocument)] rfl
      rw [toDocument, ofStored?, shape]
      simp [Condition.ofStored?_toDocument]
  | group connective children ih =>
      obtain ⟨below, rfl⟩ := exists_eq_succ enough
      have shape := Shape.read?_form (.group connective)
        [("children", .sequence (childrenDocuments children))] rfl
      have reads : ∀ child ∈ children, (ofStored? below ∘ toDocument) child = some (id child) :=
        fun child member =>
          ih child member (Nat.le_of_lt_succ (Nat.lt_of_lt_of_le (depth_lt_group member) enough))
      have parts : (childrenDocuments children).mapM (ofStored? below) = some children := by
        rw [childrenDocuments_eq_map, List.mapM_map, mapM_eq_some reads, List.map_id]
      rw [toDocument, ofStored?, shape]
      simp [parts]
  | negation child ih =>
      obtain ⟨below, rfl⟩ := exists_eq_succ enough
      have shape := Shape.read?_form .negation [("child", child.toDocument)] rfl
      have reads : ofStored? below child.toDocument = some child :=
        ih (Nat.le_of_lt_succ (Nat.lt_of_lt_of_le (depth_lt_negation child) enough))
      rw [toDocument, ofStored?, shape]
      simp [reads]
  | constant value =>
      obtain ⟨below, rfl⟩ := exists_eq_succ enough
      have shape := Shape.read?_form .constant [("value", .bool value)] rfl
      rw [toDocument, ofStored?, shape]
      simp

/-! ### Tags -/

theorem isUntagged_toDocument (predicate : Predicate) : predicate.toDocument.isUntagged = true := by
  induction predicate with
  | compare field condition =>
      exact isUntagged_form (List.forall_mem_cons.mpr
        ⟨rfl, List.forall_mem_singleton.mpr condition.isUntagged_toDocument⟩)
  | group connective children ih =>
      refine isUntagged_form (List.forall_mem_singleton.mpr (isUntagged_sequence ?_))
      rw [childrenDocuments_eq_map, List.forall_mem_map]
      exact ih
  | negation child ih => exact isUntagged_form (List.forall_mem_singleton.mpr ih)
  | constant value => exact isUntagged_form (List.forall_mem_singleton.mpr rfl)

end Predicate

end RecordQuery
