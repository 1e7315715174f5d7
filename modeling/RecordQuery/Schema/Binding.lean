import RecordQuery.Schema.Conversion

/-!
# Binding a predicate to a schema

Binding checks every comparison of a predicate against the declared fields, from left to right, and
turns the texts that an enumeration field is compared with by `eq` and `ne` into cases.  A Boolean
field has no order, and only a string field is searched for a text; operands are not checked here.
-/

namespace RecordQuery

/-- A field of the given kind can be compared by the operator. -/
def Kind.supports (kind : Kind) (operator : Operator) : Bool :=
  match kind with
  | .bool => !operator.isOrdering && !operator.isTextTest
  | .string => true
  | _ => !operator.isTextTest

namespace Field

/-- An operand of `eq` or `ne` on an enumeration field: a text has to be one of the cases, and any
other value is left as it is. -/
def bindCase (field : Field) (operand : Value) : Except SchemaError Value :=
  match operand.caseText? with
  | some text => field.caseOf text
  | none => .ok operand

/-- A condition on a field, with its operands bound. -/
def bindCondition (field : Field) (condition : Condition) : Except SchemaError Condition :=
  if field.kind.supports condition.operator then
    match field.kind, condition with
    | .enum, .relates .eq operand => (field.bindCase operand).map (.relates .eq)
    | .enum, .relates .ne operand => (field.bindCase operand).map (.relates .ne)
    | _, condition => .ok condition
  else
    .error (.unsupportedOperator field.name field.kind condition.operator)

end Field

namespace Schema

/-- A comparison bound to the declaration of its field. -/
def bindComparison (schema : Schema) (name : String) (condition : Condition) :
    Except SchemaError Predicate :=
  match schema.field? name with
  | none => .error (.unknownField schema.name name)
  | some field => (field.bindCondition condition).map (.compare name)

mutual

/-- A predicate bound to a schema, or the error of its first comparison that does not fit. -/
def bind (schema : Schema) : Predicate → Except SchemaError Predicate
  | .compare name condition => schema.bindComparison name condition
  | .group connective children => (schema.bindAll children).map (.group connective)
  | .negation child => (schema.bind child).map .negation
  | .constant value => .ok (.constant value)

/-- The predicates of a list, each bound to a schema. -/
def bindAll (schema : Schema) : List Predicate → Except SchemaError (List Predicate)
  | [] => .ok []
  | child :: children => do
    let bound ← schema.bind child
    return bound :: (← schema.bindAll children)

end

end Schema
end RecordQuery
