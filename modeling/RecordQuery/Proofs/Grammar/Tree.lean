import RecordQuery.Proofs.Grammar.Token

/-!
# The grammar of the query language

A syntax tree keeps what a query says, parentheses included; `Tree.meaning` forgets them and joins
every chain from the left.  `Spells` is the grammar: it relates a phrase of a level to a text and to
what is left of the text after the phrase.

* an expression is a chain of conjunctions with `OR` between them,
* a conjunction is a chain of units with `AND` between them,
* a unit is a primary after any number of `NOT`,
* a primary is an expression in parentheses, a constant or a comparison.

The chains are written left-recursively.  Nothing in the relation says how a text is scanned; only
the ends of runs and keywords, the word `NOT` before a primary and what may follow a constant look at
the text around a phrase.
-/

namespace RecordQuery

/-- The keywords that introduce a text test. -/
def TextTest.keywords : TextTest → List String
  | .contains => ["contains"]
  | .notContains => ["not", "contains"]
  | .beginsWith => ["beginswith"]

namespace Grammar

open Text RecordQuery.Parser

/-- The keyword of a constant. -/
def constantWord : Bool → String
  | true => "all"
  | false => "none"

/-- A syntax tree of the query language. -/
inductive Tree where
  | comparison (field : String) (condition : Condition)
  | constant (value : Bool)
  | parentheses (inner : Tree)
  | negation (inner : Tree)
  /-- A chain whose last part is `later`; `earlier` is the chain before it, or its first part. -/
  | chain (connective : Connective) (earlier later : Tree)
  deriving Repr

/-- The predicate that a syntax tree stands for. -/
def Tree.meaning : Tree → Predicate
  | .comparison field condition => .compare field condition
  | .constant value => .constant value
  | .parentheses inner => inner.meaning
  | .negation inner => inner.meaning.not
  | .chain connective earlier later => earlier.meaning.join connective later.meaning

/-- The levels of the grammar. -/
inductive Level where
  /-- Parts with the keyword of a connective between them, or a single part. -/
  | chain (connective : Connective)
  | unit
  | primary
  deriving DecidableEq, Repr

/-- The level of the parts of a chain. -/
def partLevel : Connective → Level
  | .or => .chain .and
  | .and => .unit

/-- An operand. -/
inductive SpellsOperand : Value → List Char → List Char → Prop where
  /-- A string in quotes. -/
  | string {inside : String} {text rest : List Char} :
      Begins (quote inside.toList) text rest → SpellsOperand (.string inside) text rest
  | true {text rest : List Char} :
      Keyword "true" text rest → SpellsOperand (.bool true) text rest
  | false {text rest : List Char} :
      Keyword "false" text rest → SpellsOperand (.bool false) text rest
  /-- Any other operand: the longest run of scalar characters. -/
  | scalar {run : List Char} {value : Value} {text rest : List Char} :
      Run isScalarCharacter run text rest → Value.ofScalar? run = some value →
        SpellsOperand value text rest

/-- Keywords one after the other. -/
inductive Keywords : List String → List Char → List Char → Prop where
  | nil {text : List Char} : Keywords [] text text
  | cons {word : String} {words : List String} {text middle rest : List Char} :
      Keyword word text middle → Keywords words middle rest → Keywords (word :: words) text rest

/-- A condition, as it follows the name of a field. -/
inductive SpellsCondition : Condition → List Char → List Char → Prop where
  | relates {relation : Relation} {operand : Value} {text middle rest : List Char} :
      Begins relation.symbol text middle → SpellsOperand operand middle rest →
        SpellsCondition (.relates relation operand) text rest
  | finds {test : TextTest} {needle : String} {text middle rest : List Char} :
      Keywords test.keywords text middle → Begins (quote needle.toList) middle rest →
        SpellsCondition (.finds test needle) text rest
  /-- A range; the `and` between its bounds belongs to it. -/
  | between {lower upper : Value} {text first second third rest : List Char} :
      Keyword "between" text first → SpellsOperand lower first second →
        Keyword "and" second third → SpellsOperand upper third rest →
          SpellsCondition (.between lower upper) text rest

/-- What may follow a constant: the end, a closing parenthesis, or a keyword that joins. -/
def FollowsConstant (rest : List Char) : Prop :=
  Begins [] rest [] ∨ (∃ after, Begins [')'] rest after) ∨
    ∃ connective after, Keyword (joiner connective) rest after

/-- A phrase of the grammar, the text that begins with it, and the rest of the text. -/
inductive Spells : Level → Tree → List Char → List Char → Prop where
  | comparison {field : String} {condition : Condition} {text middle rest : List Char} :
      Run isNameCharacter field.toList text middle → SpellsCondition condition middle rest →
        Spells .primary (.comparison field condition) text rest
  | constant {value : Bool} {text rest : List Char} :
      Keyword (constantWord value) text rest → FollowsConstant rest →
        Spells .primary (.constant value) text rest
  | parentheses {inner : Tree} {text first last rest : List Char} :
      Begins ['('] text first → Spells (.chain .or) inner first last → Begins [')'] last rest →
        Spells .primary (.parentheses inner) text rest
  | negation {inner : Tree} {text middle rest : List Char} :
      Keyword "not" text middle → Spells .unit inner middle rest →
        Spells .unit (.negation inner) text rest
  /-- A primary is a unit unless the keyword of a negation comes first. -/
  | primary {tree : Tree} {text rest : List Char} :
      (∀ after, ¬ Keyword "not" text after) → Spells .primary tree text rest →
        Spells .unit tree text rest
  | single {connective : Connective} {tree : Tree} {text rest : List Char} :
      Spells (partLevel connective) tree text rest → Spells (.chain connective) tree text rest
  | chain {connective : Connective} {earlier later : Tree} {text first second rest : List Char} :
      Spells (.chain connective) earlier text first → Keyword (joiner connective) first second →
        Spells (partLevel connective) later second rest →
          Spells (.chain connective) (.chain connective earlier later) text rest

/-- The whole text is a spelling of the tree. -/
def IsSpelling (text : List Char) (tree : Tree) : Prop :=
  ∃ rest, Spells (.chain .or) tree text rest ∧ Begins [] rest []

end Grammar
end RecordQuery
