import RecordQuery.Proofs.Predicate.Structure
import RecordQuery.Proofs.Record
import RecordQuery.Schema.Binding
import Mathlib.Data.List.Forall2

/-!
# Binding changes no answer

Binding leaves the shape of a predicate as it is and rewrites one thing, the operand of an equality
on an enumeration field.  A loaded record holds a case there, and a case is compared with a text as
it is with the case of that text.
-/

namespace RecordQuery

/-! ## Conditions -/

/-- A case is equal to what has its name as text. -/
theorem Value.equal?_enum (case : String) {operand : Value} {text : String}
    (named : operand.caseText? = some text) :
    (Value.enum case).equal? operand = some (case == text) := by
  cases operand with
  | string | enum =>
      obtain rfl := Option.some.inj named
      rfl
  | _ => cases named

namespace Field

variable {field : Field}

/-- Binding makes one condition out of another: an equality on an enumeration field gets its case,
and nothing else changes. -/
inductive Binds (field : Field) : Condition → Condition → Prop where
  | case {relation : Relation} {operand bound : Value} :
      field.kind = .enum → relation.isOrdering = false → field.bindCase operand = .ok bound →
        Binds field (.relates relation operand) (.relates relation bound)
  | unchanged {condition : Condition} :
      (field.kind = .enum → ∀ relation operand, condition = .relates relation operand →
        relation.isOrdering = true) → Binds field condition condition

theorem bindCase_eq_ok_iff {operand bound : Value} :
    field.bindCase operand = .ok bound ↔
      (∃ text ∈ field.cases, operand.caseText? = some text ∧ bound = .enum text) ∨
        operand.caseText? = none ∧ bound = operand := by
  rw [bindCase]
  cases named : operand.caseText? with
  | none => simp [eq_comm]
  | some text => simp [caseOf_eq_ok_iff]

theorem bindCondition_of_equality {relation : Relation} (enumeration : field.kind = .enum)
    (equality : relation.isOrdering = false) (operand : Value) :
    field.bindCondition (.relates relation operand) =
      (field.bindCase operand).map (.relates relation) := by
  unfold bindCondition
  rw [enumeration]
  cases relation with
  | eq | ne => rfl
  | _ => cases equality

theorem bindCondition_of_unchanged {condition : Condition}
    (other : field.kind = .enum → ∀ relation operand, condition = .relates relation operand →
      relation.isOrdering = true) :
    field.bindCondition condition =
      if field.kind.supports condition.operator then .ok condition
      else .error (.unsupportedOperator field.name field.kind condition.operator) := by
  unfold bindCondition
  split
  · split
    · cases other ‹_› .eq _ rfl
    · cases other ‹_› .ne _ rfl
    · rfl
  · rfl

/-- A condition is bound exactly if the kind of the field supports its operator. -/
theorem bindCondition_eq_ok_iff {condition bound : Condition} :
    field.bindCondition condition = .ok bound ↔
      field.kind.supports condition.operator = true ∧ field.Binds condition bound := by
  constructor
  · intro binds
    by_cases equality : field.kind = .enum ∧
        ∃ relation operand, condition = .relates relation operand ∧ relation.isOrdering = false
    · obtain ⟨enumeration, relation, operand, rfl, equality⟩ := equality
      rw [bindCondition_of_equality enumeration equality] at binds
      obtain ⟨case, bindsCase, rfl⟩ := map_eq_ok_iff.mp binds
      have supported : Kind.enum.supports (.relates relation) = true := rfl
      exact ⟨enumeration ▸ supported, .case enumeration equality bindsCase⟩
    · have other : field.kind = .enum → ∀ relation operand,
          condition = .relates relation operand → relation.isOrdering = true := by
        intro enumeration relation operand same
        by_contra unordered
        rw [Bool.not_eq_true] at unordered
        exact equality ⟨enumeration, relation, operand, same, unordered⟩
      rw [bindCondition_of_unchanged other] at binds
      by_cases supported : field.kind.supports condition.operator
      · rw [if_pos supported] at binds
        obtain rfl := Except.ok.inj binds
        exact ⟨supported, .unchanged other⟩
      · rw [if_neg supported] at binds
        cases binds
  · rintro ⟨supported, binds⟩
    cases binds with
    | case enumeration equality binds =>
        rw [bindCondition_of_equality enumeration equality]
        exact map_eq_ok_iff.mpr ⟨_, binds, rfl⟩
    | unchanged other => rw [bindCondition_of_unchanged other, if_pos supported]

/-- On a value that the field may hold, a bound condition gives what the condition gives. -/
theorem Binds.test_eq {condition bound : Condition} {value : Value}
    (binds : field.Binds condition bound) (admits : field.Admits value) :
    bound.test value = condition.test value := by
  cases binds with
  | unchanged => rfl
  | @case relation operand bound enumeration equality binds =>
      obtain ⟨case, -, rfl⟩ := admits.exists_case enumeration
      rcases bindCase_eq_ok_iff.mp binds with ⟨text, -, named, rfl⟩ | ⟨-, rfl⟩
      · have asText : (Value.enum case).equal? operand = some (case == text) :=
          Value.equal?_enum case named
        have asCase : (Value.enum case).equal? (.enum text) = some (case == text) :=
          Value.equal?_enum case rfl
        cases relation with
        | eq | ne =>
            simp only [Condition.test, Relation.holds?, asText, asCase, Option.map_some,
              Condition.supported]
        | _ => cases equality
      · rfl

end Field

/-! ## Predicates -/

/-- A group is settled the same way when each of its parts is. -/
theorem Predicate.evaluateGroup_congr {target : Target} (connective : Connective)
    {children others : List Predicate}
    (same : List.Forall₂ (fun child other => other.evaluate target = child.evaluate target)
      children others) :
    evaluateGroup target connective others = evaluateGroup target connective children := by
  induction same with
  | nil => rfl
  | cons equal _ ih => rw [evaluateGroup, evaluateGroup, equal, ih]

/-- What is in a list has a counterpart in every list that is related to it item by item. -/
theorem exists_mem_of_forall₂ {α β : Type} {R : α → β → Prop} {items : List α} {others : List β}
    (paired : List.Forall₂ R items others) {item : α} (member : item ∈ items) :
    ∃ other ∈ others, R item other := by
  induction paired with
  | nil => cases member
  | @cons _ other _ _ related _ ih =>
      rcases List.mem_cons.mp member with rfl | later
      · exact ⟨other, List.mem_cons_self, related⟩
      · obtain ⟨other, listed, related⟩ := ih later
        exact ⟨other, List.mem_cons_of_mem _ listed, related⟩

namespace Schema

variable {schema : Schema}

/-- A list is bound when each of its predicates is. -/
theorem bindAll_eq_ok_iff {children bound : List Predicate} :
    schema.bindAll children = .ok bound ↔
      List.Forall₂ (fun child bound => schema.bind child = .ok bound) children bound := by
  induction children generalizing bound with
  | nil => simp [bindAll, eq_comm]
  | cons child children ih =>
      rw [bindAll, List.forall₂_cons_left_iff]
      constructor
      · intro binds
        obtain ⟨first, bindsFirst, binds⟩ := bind_eq_ok_iff.mp binds
        obtain ⟨others, bindsOthers, same⟩ := bind_eq_ok_iff.mp binds
        exact ⟨first, others, bindsFirst, ih.mp bindsOthers, (Except.ok.inj same).symm⟩
      · rintro ⟨first, others, bindsFirst, bindsOthers, rfl⟩
        exact bind_eq_ok_iff.mpr ⟨first, bindsFirst,
          bind_eq_ok_iff.mpr ⟨others, ih.mpr bindsOthers, rfl⟩⟩

/-- Induction over a predicate and what it is bound to. -/
theorem bind_induction {motive : Predicate → Predicate → Prop}
    (compare : ∀ name field condition bound, schema.field? name = some field →
      field.bindCondition condition = .ok bound →
        motive (.compare name condition) (.compare name bound))
    (group : ∀ connective children bound, List.Forall₂ motive children bound →
      motive (.group connective children) (.group connective bound))
    (negation : ∀ child bound, motive child bound → motive (.negation child) (.negation bound))
    (constant : ∀ value, motive (.constant value) (.constant value))
    {predicate bound : Predicate} (binds : schema.bind predicate = .ok bound) :
    motive predicate bound := by
  induction predicate generalizing bound with
  | compare name condition =>
      rw [bind, bindComparison] at binds
      cases declared : schema.field? name with
      | none =>
          rw [declared] at binds
          cases binds
      | some field =>
          rw [declared] at binds
          obtain ⟨condition', bindsCondition, rfl⟩ := map_eq_ok_iff.mp binds
          exact compare name field condition condition' declared bindsCondition
  | group connective children ih =>
      obtain ⟨others, bindsAll, rfl⟩ := map_eq_ok_iff.mp binds
      have bound := (List.forall₂_and_left _ _).mpr ⟨@ih, bindAll_eq_ok_iff.mp bindsAll⟩
      exact group connective children others (bound.imp fun _ _ binds => binds.1 binds.2)
  | negation child ih =>
      obtain ⟨other, bindsChild, rfl⟩ := map_eq_ok_iff.mp binds
      exact negation child other (ih bindsChild)
  | constant value =>
      obtain rfl := Except.ok.inj binds
      exact constant value

/-- Binding goes comparison by comparison: each keeps its name, which is that of a declared field,
and its condition is bound to the field. -/
theorem comparisons_of_bind {predicate bound : Predicate}
    (binds : schema.bind predicate = .ok bound) :
    List.Forall₂ (fun comparison bound => comparison.1 = bound.1 ∧
        ∃ field, schema.field? comparison.1 = some field ∧
          field.bindCondition comparison.2 = .ok bound.2)
      predicate.comparisons bound.comparisons := by
  refine bind_induction (motive := fun predicate bound =>
    List.Forall₂ _ predicate.comparisons bound.comparisons) ?compare ?group ?negation ?constant binds
  case compare =>
    intro name field condition bound declared binds
    exact .cons ⟨rfl, field, declared, binds⟩ .nil
  case group =>
    intro connective children bound paired
    rw [Predicate.comparisons, Predicate.comparisons, Predicate.allComparisons_eq_flatMap,
      Predicate.allComparisons_eq_flatMap]
    exact List.rel_flatMap paired fun _ _ inside => inside
  case negation =>
    intro child bound paired
    exact paired
  case constant =>
    intro value
    exact .nil

/-- A predicate is bound only if every field it compares is declared. -/
theorem declared_of_bind {predicate bound : Predicate} (binds : schema.bind predicate = .ok bound) :
    ∀ comparison ∈ predicate.comparisons, ∃ field, schema.field? comparison.1 = some field := by
  intro comparison member
  obtain ⟨-, -, -, field, declared, -⟩ := exists_mem_of_forall₂ (comparisons_of_bind binds) member
  exact ⟨field, declared⟩

/-- A predicate that is bound to the schema of a target gives there what it gave before. -/
theorem evaluate_eq_of_conforms {target : Target} (conforms : target.Conforms schema)
    {predicate bound : Predicate} (binds : schema.bind predicate = .ok bound) :
    bound.evaluate target = predicate.evaluate target := by
  refine bind_induction (motive := fun predicate bound =>
    bound.evaluate target = predicate.evaluate target) ?compare ?group ?negation ?constant binds
  case compare =>
    intro name field condition bound declared binds
    rw [Predicate.evaluate, Predicate.evaluate]
    cases found : target name with
    | error refusal => rfl
    | ok held =>
        cases held with
        | none => rfl
        | some value =>
            obtain ⟨field', declared', admits⟩ := conforms name value found
            obtain rfl := Option.some.inj (declared.symm.trans declared')
            exact (Field.bindCondition_eq_ok_iff.mp binds).2.test_eq admits
  case group =>
    intro connective children bound same
    exact Predicate.evaluateGroup_congr connective same
  case negation =>
    intro child bound same
    rw [Predicate.evaluate, Predicate.evaluate, same]
  case constant =>
    intro value
    rfl

end Schema

/-- Binding a predicate to the schema that a record is loaded under changes neither its value on
the record nor the error it ends in. -/
theorem Record.evaluate_of_bind {schema : Schema} {label : String}
    {entries : List (Document × Document)} {record : Record} {predicate bound : Predicate}
    (loads : ofEntries schema label entries = .ok record)
    (binds : schema.bind predicate = .ok bound) :
    bound.evaluate record.target = predicate.evaluate record.target :=
  Schema.evaluate_eq_of_conforms (conforms_of_ofEntries loads) binds

/-- A schema that declares `status` twice, first as an enumeration. -/
def postSchema : Schema :=
  ⟨"Post", [⟨"status", .enum, ["draft", "published"]⟩, ⟨"rating", .int, []⟩,
    ⟨"status", .int, []⟩]⟩

/-- A query for a status by its text; the last comparison is one of a number with a text. -/
def statusQuery (status : Value) : Predicate :=
  .group .and
    [.negation (.compare "status" (.relates .ne status)),
      .compare "rating" (.relates .eq (.string "high"))]

/-- What a mapping with the two fields is loaded as. -/
def draftPost : Record :=
  ⟨postSchema, "post", [("rating", .int 3), ("status", .enum "draft")]⟩

theorem Record.evaluate_of_bind_statusQuery :
    ofEntries postSchema "post"
        [(.string "status", .string "draft"), (.string "rating", .int 3)] = .ok draftPost ∧
      postSchema.bind (statusQuery (.string "draft")) = .ok (statusQuery (.enum "draft")) ∧
      (statusQuery (.enum "draft")).evaluate draftPost.target =
        (statusQuery (.string "draft")).evaluate draftPost.target ∧
      (statusQuery (.string "draft")).evaluate draftPost.target =
        .error (.unsupportedComparison .int .string (.relates .eq)) := by
  have loads : ofEntries postSchema "post"
      [(.string "status", .string "draft"), (.string "rating", .int 3)] = .ok draftPost := by rfl
  have binds : postSchema.bind (statusQuery (.string "draft")) =
      .ok (statusQuery (.enum "draft")) := by rfl
  exact ⟨loads, binds, Record.evaluate_of_bind loads binds, by rfl⟩

end RecordQuery
