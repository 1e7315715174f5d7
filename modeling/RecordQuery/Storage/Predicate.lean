import RecordQuery.Document.Scalar
import RecordQuery.Predicate.Basic
import RecordQuery.Storage.Value

/-!
# Stored predicates

A predicate is stored as the name of its constructor with its parts, a condition as the name of its
operator with its operand.  Reading refuses a document with a tag anywhere in it but on the name of
the outermost constructor.
-/

namespace RecordQuery

namespace Condition

/-- The operand of a condition in a stored predicate. -/
def operandDocument : Condition → Document
  | .relates _ operand => operand.toDocument
  | .finds _ needle => .string needle
  | .between lower upper =>
    .mapping [(.string "start", lower.toDocument), (.string "end", upper.toDocument)]

/-- The document that stores a condition. -/
def toDocument (condition : Condition) : Document :=
  Storage.form "op" condition.operator.name [("operand", condition.operandDocument)]

/-- The condition of an operator with the given operand. -/
def ofOperand? (operator : Operator) (operand : Document) : Option Condition :=
  match operator, operand with
  | .relates relation, operand => (Value.ofStored? operand).map (.relates relation)
  | .finds test, .string needle => some (.finds test needle)
  | .between, .mapping entries => do
    match ← Storage.contents? ["start", "end"] entries with
    | [lower, upper] => return .between (← Value.ofStored? lower) (← Value.ofStored? upper)
    | _ => none
  | _, _ => none

/-- The condition that a document stores. -/
def ofStored? (document : Document) : Option Condition := do
  let (operator, operand) ←
    Storage.readPair? (Storage.choice? Operator.all Operator.name) "op" "operand" document
  ofOperand? operator operand

end Condition

/-- The constructors of stored predicates. -/
inductive Shape where
  | compare
  | group (connective : Connective)
  | negation
  | constant
  deriving DecidableEq, Repr

namespace Shape

/-- The name that a constructor is stored under. -/
def name : Shape → String
  | .compare => "compare"
  | .group .and => "and"
  | .group .or => "or"
  | .negation => "not"
  | .constant => "constant"

/-- The keys of the arguments of a constructor. -/
def keys : Shape → List String
  | .compare => ["field", "operator"]
  | .group _ => ["children"]
  | .negation => ["child"]
  | .constant => ["value"]

/-- All constructors, in the order of their numbers. -/
def all : List Shape := [.compare, .group .and, .group .or, .negation, .constant]

/-- The constructor and the arguments that a document holds. -/
def read? : Document → Option (Shape × List Document)
  | .mapping entries => do
    let (names, others) := entries.partition fun entry => entry.1.isString "type"
    match names with
    | [name] =>
      let shape ← Storage.choice? all Shape.name name.2
      return (shape, ← Storage.contents? shape.keys others)
    | _ => none
  | .sequence (name :: arguments) => do
    let shape ← Storage.choice? all Shape.name name
    if arguments.length = shape.keys.length then some (shape, arguments) else none
  | _ => none

end Shape

namespace Predicate

mutual

/-- The document that stores a predicate. -/
def toDocument : Predicate → Document
  | .compare field condition =>
    Storage.form "type" Shape.compare.name
      [("field", .string field), ("operator", condition.toDocument)]
  | .group connective children =>
    Storage.form "type" (Shape.group connective).name
      [("children", .sequence (childrenDocuments children))]
  | .negation child => Storage.form "type" Shape.negation.name [("child", child.toDocument)]
  | .constant value => Storage.form "type" Shape.constant.name [("value", .bool value)]

/-- The documents that store the parts of a group. -/
def childrenDocuments : List Predicate → List Document
  | [] => []
  | child :: children => child.toDocument :: childrenDocuments children

end

/-- The predicate that a document stores, with parts nested at most `depth` deep. -/
def ofStored? : Nat → Document → Option Predicate
  | 0, _ => none
  | depth + 1, document => do
    match ← Shape.read? document with
    | (.compare, [.string field, condition]) =>
      return .compare field (← Condition.ofStored? condition)
    | (.group connective, [.sequence children]) =>
      return .group connective (← children.mapM (ofStored? depth))
    | (.negation, [child]) => return .negation (← ofStored? depth child)
    | (.constant, [.bool value]) => return .constant value
    | _ => none

/-- The name of a constructor without the tag it stands under; a number is no name here. -/
def outerName (name : Document) : Document := (name.string?.map Document.string).getD .null

/-- The document with the name of its outermost constructor as `outerName` takes it. -/
def withOuterName : Document → Document
  | .mapping entries =>
    .mapping (entries.map fun entry =>
      if entry.1.isString "type" then (entry.1, outerName entry.2) else entry)
  | .sequence (name :: arguments) => .sequence (outerName name :: arguments)
  | document => document

/-- The predicate that a document of its own stores. -/
def ofDocument? (document : Document) : Option Predicate :=
  let document := withOuterName document
  if document.isUntagged then ofStored? document.depth document else none

/-- The stored predicate that a text holds. -/
def read? (text : String) : Option Predicate := (Document.ofText? text).bind ofDocument?

end Predicate
end RecordQuery
