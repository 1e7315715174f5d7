import RecordQuery.Predicate.Basic
import RecordQuery.Text.Search

/-!
# Evaluating predicates

A predicate is evaluated on anything that says what its fields hold.  Parts of a group are
evaluated from left to right and only up to the first one that settles it, so an error in a later
part stays unseen.  A field that holds nothing satisfies no condition, not even `ne`.
-/

namespace RecordQuery

/-- Why a predicate has no value on a record. -/
inductive EvaluationError where
  /-- The record knows no field of this name. -/
  | fieldNotFound (field : String)
  /-- The kinds of a value and an operand cannot be compared by the operator. -/
  | unsupportedComparison (left right : Kind) (operator : Operator)
  deriving DecidableEq, Repr

/-- The text of an evaluation error. -/
def EvaluationError.message : EvaluationError → String
  | .fieldNotFound field => "field not found: " ++ field
  | .unsupportedComparison left right operator =>
    "cannot compare " ++ left.name ++ " with " ++ right.name ++ " using " ++ operator.name

/-- What a record holds under the name of a field: a value, nothing, or no such field. -/
abbrev Target := String → Except EvaluationError (Option Value)

/-- The target that knows the listed fields, the first entry of a name counting. -/
def Target.ofList (fields : List (String × Option Value)) : Target := fun name =>
  match fields.lookup name with
  | some value => .ok value
  | none => .error (.fieldNotFound name)

/-- The result of relating a value to an operand; nothing when their kinds are not comparable in
the way that the relation needs. -/
def Relation.holds? (relation : Relation) (value operand : Value) : Option Bool :=
  match relation with
  | .eq => value.equal? operand
  | .ne => (value.equal? operand).map not
  | .lt => (value.order? operand).map (· == some .lt)
  | .le => (value.order? operand).map fun order => order == some .lt || order == some .eq
  | .gt => (value.order? operand).map (· == some .gt)
  | .ge => (value.order? operand).map fun order => order == some .gt || order == some .eq

/-- The result of a test for a text within a string. -/
def TextTest.holds (test : TextTest) (text needle : String) : Bool :=
  match test with
  | .contains => Text.contains needle.toList text.toList
  | .notContains => !Text.contains needle.toList text.toList
  | .beginsWith => needle.toList.isPrefixOf text.toList

namespace Condition

/-- The result for comparable kinds, and the error that names the kinds otherwise. -/
def supported (operator : Operator) (left right : Kind) :
    Option Bool → Except EvaluationError Bool
  | some result => .ok result
  | none => .error (.unsupportedComparison left right operator)

/-- The condition on a field that holds a value. -/
def test (condition : Condition) (value : Value) : Except EvaluationError Bool :=
  match condition with
  | .relates relation operand =>
    supported condition.operator value.kind operand.kind (relation.holds? value operand)
  | .finds test needle =>
    supported condition.operator value.kind .string
      (value.string?.map fun text => test.holds text needle)
  | .between lower upper => do
    let fromLower ← supported .between value.kind lower.kind (Relation.ge.holds? value lower)
    let toUpper ← supported .between value.kind upper.kind (Relation.le.holds? value upper)
    return fromLower && toUpper

/-- The condition on a field; one that holds nothing satisfies no condition. -/
def evaluate (condition : Condition) : Option Value → Except EvaluationError Bool
  | none => .ok false
  | some value => condition.test value

end Condition

namespace Predicate

mutual

/-- The value of a predicate on a target. -/
def evaluate (target : Target) : Predicate → Except EvaluationError Bool
  | .compare field condition => do condition.evaluate (← target field)
  | .group connective children => evaluateGroup target connective children
  | .negation child => do return !(← child.evaluate target)
  | .constant value => .ok value

/-- The value of a group: that of the first part that decides it, and the other value if no part
does. -/
def evaluateGroup (target : Target) (connective : Connective) :
    List Predicate → Except EvaluationError Bool
  | [] => .ok (!connective.decisive)
  | child :: children => do
    if (← child.evaluate target) == connective.decisive then
      return connective.decisive
    else
      evaluateGroup target connective children

end

/-- The items on which a predicate is true, in their order, or the first error. -/
def filter {α : Type} (predicate : Predicate) (target : α → Target) :
    List α → Except EvaluationError (List α)
  | [] => .ok []
  | item :: items => do
    let selected ← predicate.evaluate (target item)
    let others ← predicate.filter target items
    return if selected then item :: others else others

end Predicate
end RecordQuery
