import RecordQuery.Value.Order

/-!
# Predicates

A predicate says which records a query selects.  Its leaves compare one field by a condition; they
are joined by groups of any length under `and` or `or`, negated, and completed by the two
constants.  `Predicate.and` and `Predicate.or` join two predicates and keep groups flat: a part
that is itself a group of the same connective contributes its children.
-/

namespace RecordQuery

/-- The relations between a value and one operand. -/
inductive Relation where
  | eq
  | ne
  | lt
  | le
  | gt
  | ge
  deriving DecidableEq, Repr

/-- The tests for a text within a string. -/
inductive TextTest where
  | contains
  | notContains
  | beginsWith
  deriving DecidableEq, Repr

/-- The operators of the query language, without their operands. -/
inductive Operator where
  | relates (relation : Relation)
  | finds (test : TextTest)
  | between
  deriving DecidableEq, Repr

/-- An operator together with its operands. -/
inductive Condition where
  | relates (relation : Relation) (operand : Value)
  | finds (test : TextTest) (needle : String)
  /-- A range that includes both bounds. -/
  | between (lower upper : Value)
  deriving DecidableEq, Repr

/-- The two ways to join predicates. -/
inductive Connective where
  | and
  | or
  deriving DecidableEq, Repr

/-- What a query asks of a record. -/
inductive Predicate where
  | compare (field : String) (condition : Condition)
  | group (connective : Connective) (children : List Predicate)
  | negation (child : Predicate)
  /-- True of every record or of none. -/
  | constant (value : Bool)
  deriving Repr

namespace Relation

/-- The name of a relation in messages and stored predicates. -/
def name : Relation → String
  | .eq => "eq"
  | .ne => "ne"
  | .lt => "lt"
  | .le => "le"
  | .gt => "gt"
  | .ge => "ge"

/-- All relations, in the order of their declaration. -/
def all : List Relation := [.eq, .ne, .lt, .le, .gt, .ge]

/-- The relation needs an order, not only equality. -/
def isOrdering : Relation → Bool
  | .eq | .ne => false
  | _ => true

end Relation

namespace TextTest

/-- The name of a test in messages and stored predicates. -/
def name : TextTest → String
  | .contains => "contains"
  | .notContains => "notContains"
  | .beginsWith => "beginsWith"

/-- All tests, in the order of their declaration. -/
def all : List TextTest := [.contains, .notContains, .beginsWith]

end TextTest

namespace Operator

/-- The name of an operator in messages and stored predicates. -/
def name : Operator → String
  | .relates relation => relation.name
  | .finds test => test.name
  | .between => "between"

/-- All operators, in the order of their declaration. -/
def all : List Operator :=
  Relation.all.map .relates ++ TextTest.all.map .finds ++ [.between]

/-- The operator with the given name. -/
def ofName? (name : String) : Option Operator := all.find? fun operator => operator.name == name

/-- The operator needs its operands to stand in order. -/
def isOrdering : Operator → Bool
  | .relates relation => relation.isOrdering
  | .finds _ => false
  | .between => true

/-- The operator looks for a text within a string. -/
def isTextTest : Operator → Bool
  | .finds _ => true
  | _ => false

@[simp]
theorem ofName?_name (operator : Operator) : ofName? operator.name = some operator := by
  rcases operator with relation | test | _
  · cases relation <;> decide
  · cases test <;> decide
  · decide

end Operator

/-- The operator of a condition. -/
def Condition.operator : Condition → Operator
  | .relates relation _ => .relates relation
  | .finds test _ => .finds test
  | .between _ _ => .between

/-- The values that a condition compares with agree with those of another condition of the same
operator. -/
def Condition.agrees : Condition → Condition → Bool
  | .relates relation a, .relates relation' b => relation == relation' && a.agrees b
  | .between a b, .between a' b' => a.agrees a' && b.agrees b'
  | a, b => a == b

/-- The value of one part that settles a group: the first part of that value decides it. -/
def Connective.decisive : Connective → Bool
  | .and => false
  | .or => true

namespace Predicate

/-- The predicate that is true of every record. -/
def everything : Predicate := .constant true

/-- The predicate that is true of no record. -/
def nothing : Predicate := .constant false

/-- The parts a predicate contributes to a group: its children if it is a group of the same
connective, and itself otherwise. -/
def parts (connective : Connective) : Predicate → List Predicate
  | .group connective' children =>
    if connective' = connective then children else [.group connective' children]
  | predicate => [predicate]

/-- Two predicates joined by a connective, without a group of it inside another. -/
def join (connective : Connective) (left right : Predicate) : Predicate :=
  .group connective (left.parts connective ++ right.parts connective)

/-- True where both predicates are. -/
def and (left right : Predicate) : Predicate := join .and left right

/-- True where one of the predicates is. -/
def or (left right : Predicate) : Predicate := join .or left right

/-- True where the predicate is false. -/
def not (predicate : Predicate) : Predicate := .negation predicate

mutual

/-- Two predicates have the same form and agree in all operands.  No predicate with a NaN agrees
with itself. -/
def agrees : Predicate → Predicate → Bool
  | .compare field condition, .compare field' condition' =>
    field == field' && condition.agrees condition'
  | .group connective children, .group connective' children' =>
    connective == connective' && childrenAgree children children'
  | .negation child, .negation child' => child.agrees child'
  | .constant value, .constant value' => value == value'
  | _, _ => false

/-- Two lists of predicates agree part by part. -/
def childrenAgree : List Predicate → List Predicate → Bool
  | [], [] => true
  | child :: children, child' :: children' =>
    child.agrees child' && childrenAgree children children'
  | _, _ => false

end

end Predicate
end RecordQuery
