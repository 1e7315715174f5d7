import RecordQuery.Predicate.Basic
import RecordQuery.Value.Literal

/-!
# Writing predicates

`Predicate.text` writes a predicate in the query language.  A group stands in parentheses with its
connective between the parts, a negated predicate in parentheses after `NOT`, and a comparison
stands on its own.
-/

namespace RecordQuery

/-- The sign of a relation in a query. -/
def Relation.symbol : Relation → List Char
  | .eq => "=".toList
  | .ne => "!=".toList
  | .lt => "<".toList
  | .le => "<=".toList
  | .gt => ">".toList
  | .ge => ">=".toList

/-- The words of a text test in a query. -/
def TextTest.words : TextTest → List Char
  | .contains => "contains".toList
  | .notContains => "not contains".toList
  | .beginsWith => "beginsWith".toList

/-- The keyword between the parts of a group. -/
def Connective.keyword : Connective → List Char
  | .and => "AND".toList
  | .or => "OR".toList

/-- A condition as it follows the name of its field. -/
def Condition.text : Condition → List Char
  | .relates relation operand => relation.symbol ++ ' ' :: operand.literal
  | .finds test needle => test.words ++ ' ' :: Text.quote needle.toList
  | .between lower upper =>
    "between ".toList ++ lower.literal ++ " and ".toList ++ upper.literal

namespace Predicate

mutual

/-- A predicate in the query language. -/
def text : Predicate → List Char
  | .compare field condition => field.toList ++ ' ' :: condition.text
  | .group connective children => '(' :: (childrenText connective children ++ [')'])
  | .negation child => "NOT (".toList ++ child.text ++ [')']
  | .constant true => "ALL".toList
  | .constant false => "NONE".toList

/-- The parts of a group with its keyword between them. -/
def childrenText (connective : Connective) : List Predicate → List Char
  | [] => []
  | child :: children => child.text ++ laterText connective children

/-- The parts of a group after the first, each after the keyword. -/
def laterText (connective : Connective) : List Predicate → List Char
  | [] => []
  | child :: children =>
    ' ' :: (connective.keyword ++ ' ' :: (child.text ++ laterText connective children))

end

instance : ToString Predicate := ⟨fun predicate => String.ofList predicate.text⟩

end Predicate
end RecordQuery
