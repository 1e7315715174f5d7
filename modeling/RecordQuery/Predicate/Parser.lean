import RecordQuery.Predicate.Printer
import RecordQuery.Text.Alphanumeric

/-!
# Reading predicates

`Predicate.parse` reads the query language.  `OR` binds weaker than `AND`, and `AND` weaker than
`NOT`; chains are joined from the left; keywords are words in any letter case.  A reader takes the
text still unread and gives back what it read with the rest.  It fails with the place it stopped
at, again as the text unread there, so that a position is a difference of lengths and always falls
between two characters.
-/

namespace RecordQuery

/-- What a text lacks to be a predicate. -/
inductive ParseProblem where
  | unexpectedInput
  | expectedClosing
  | expectedContains
  | expectedAnd
  | expectedIdentifier
  | expectedOperator
  | expectedString
  | invalidEscape
  | unterminatedString
  | expectedValue
  | invalidValue (text : String)
  deriving DecidableEq, Repr

/-- The text of a problem. -/
def ParseProblem.text : ParseProblem → String
  | .unexpectedInput => "Unexpected input after expression"
  | .expectedClosing => "Expected ')'"
  | .expectedContains => "Expected 'contains' after 'not'"
  | .expectedAnd => "Expected 'and' in between range"
  | .expectedIdentifier => "Expected identifier"
  | .expectedOperator => "Expected operator (=, !=, >, <, >=, <=)"
  | .expectedString => "Expected string"
  | .invalidEscape => "Invalid escape in string"
  | .unterminatedString => "Unterminated string"
  | .expectedValue => "Expected value"
  | .invalidValue text => "Invalid value '" ++ text ++ "'"

/-- A problem and where in the text it is. -/
structure ParseError where
  /-- What is wrong. -/
  problem : ParseProblem
  /-- The number of bytes before the place where it was found. -/
  position : Nat
  deriving DecidableEq, Repr

/-- The text of a parse error. -/
def ParseError.message (error : ParseError) : String :=
  "Parse error at position " ++ toString error.position ++ ": " ++ error.problem.text

namespace Parser

open Text

/-- A problem and the text that is unread where it was found. -/
structure Fault where
  /-- What is wrong. -/
  problem : ParseProblem
  /-- The text from the place of the problem on. -/
  unread : List Char
  deriving DecidableEq, Repr

/-- A reader takes the unread text and gives a result with the text after it, or a fault. -/
abbrev Reader (α : Type) := List Char → Except Fault (α × List Char)

/-- The text after a word that it begins with in any letter case; the word is in lower case. -/
def dropWord? : List Char → List Char → Option (List Char)
  | [], text => some text
  | _ :: _, [] => none
  | letter :: word, c :: text => if c.toLower = letter then dropWord? word text else none

/-- The character would continue a keyword into a longer word. -/
def continuesWord (c : Char) : Bool := isAlphanumeric c || c == '_'

/-- The text after a keyword that it begins with. -/
def keyword? (word : String) (text : List Char) : Option (List Char) :=
  (dropWord? word.toList text).filter fun rest => !rest.head?.any continuesWord

/-- The keyword that joins the parts of a chain, in lower case. -/
def joiner : Connective → String
  | .and => "and"
  | .or => "or"

/-- The name of a field. -/
def readName (text : List Char) : Except Fault (String × List Char) :=
  let text := skipBlank text
  let name := text.takeWhile isNameCharacter
  if name.isEmpty then .error ⟨.expectedIdentifier, text⟩
  else .ok (String.ofList name, text.dropWhile isNameCharacter)

/-- The inside of a string literal, after its opening quote. -/
def readStringEnd (text : List Char) : Except Fault (String × List Char) :=
  match readQuoted text with
  | .ok (inside, rest) => .ok (String.ofList inside, rest)
  | .error (.invalidEscape unread) => .error ⟨.invalidEscape, unread⟩
  | .error .unterminated => .error ⟨.unterminatedString, []⟩

/-- A string literal. -/
def readString (text : List Char) : Except Fault (String × List Char) :=
  match skipBlank text with
  | '"' :: rest => readStringEnd rest
  | rest => .error ⟨.expectedString, rest⟩

/-- A character of an unquoted operand. -/
def isScalarCharacter (c : Char) : Bool :=
  c.isAlphanum || c == '.' || c == '-' || c == '+' || c == ':'

/-- An unquoted operand. -/
def readScalar (text : List Char) : Except Fault (Value × List Char) :=
  let scalar := text.takeWhile isScalarCharacter
  if scalar.isEmpty then .error ⟨.expectedValue, text⟩
  else
    match Value.ofScalar? scalar with
    | some value => .ok (value, text.dropWhile isScalarCharacter)
    | none => .error ⟨.invalidValue (String.ofList scalar), text⟩

/-- A Boolean operand. -/
def readBool? (text : List Char) : Option (Value × List Char) :=
  ((keyword? "true" text).map fun rest => (.bool true, rest)).or
    ((keyword? "false" text).map fun rest => (.bool false, rest))

/-- An operand. -/
def readValue (text : List Char) : Except Fault (Value × List Char) :=
  match skipBlank text with
  | '"' :: rest => (readStringEnd rest).map fun (inside, rest) => (.string inside, rest)
  | text =>
    match readBool? text with
    | some result => .ok result
    | none => readScalar text

/-- The relations in the order in which their signs are tried: a sign before its own beginning. -/
def relationsBySign : List Relation := [.ge, .le, .ne, .eq, .gt, .lt]

/-- The sign of a relation. -/
def readRelation (text : List Char) : Except Fault (Relation × List Char) :=
  let text := skipBlank text
  match relationsBySign.findSome? fun relation =>
      (relation.symbol.isPrefixOf? text).map fun rest => (relation, rest) with
  | some result => .ok result
  | none => .error ⟨.expectedOperator, text⟩

/-- A condition that is not introduced by a word: a relation and its operand. -/
def readRelated (text : List Char) : Except Fault (Condition × List Char) := do
  let (relation, rest) ← readRelation text
  let (operand, rest) ← readValue rest
  return (.relates relation operand, rest)

/-- The needle of a text test. -/
def readNeedle (test : TextTest) (text : List Char) : Except Fault (Condition × List Char) := do
  let (needle, rest) ← readString text
  return (.finds test needle, rest)

/-- The bounds of a range. -/
def readRange (text : List Char) : Except Fault (Condition × List Char) := do
  let (lower, rest) ← readValue text
  match keyword? "and" (skipBlank rest) with
  | none => .error ⟨.expectedAnd, skipBlank rest⟩
  | some rest =>
    let (upper, rest) ← readValue rest
    return (.between lower upper, rest)

/-- The words that introduce a condition, each with the reader of what follows it. -/
def introductions : List (String × Reader Condition) :=
  [("contains", readNeedle .contains),
    ("not", fun text =>
      match keyword? "contains" (skipBlank text) with
      | some rest => readNeedle .notContains rest
      | none => .error ⟨.expectedContains, skipBlank text⟩),
    ("beginswith", readNeedle .beginsWith),
    ("between", readRange)]

/-- A condition, as it follows the name of a field. -/
def readCondition (text : List Char) : Except Fault (Condition × List Char) :=
  let text := skipBlank text
  match introductions.findSome? fun (word, reader) => (keyword? word text).map reader with
  | some reading => reading
  | none => readRelated text

/-- A comparison of a field. -/
def readComparison (text : List Char) : Except Fault (Predicate × List Char) := do
  let (field, rest) ← readName text
  let (condition, rest) ← readCondition rest
  return (.compare field condition, rest)

/-- Nothing more can belong to a constant: the text is at its end, at a closing parenthesis or at a
keyword that joins. -/
def endsOperand : List Char → Bool
  | [] => true
  | ')' :: _ => true
  | text => (keyword? "and" text).isSome || (keyword? "or" text).isSome

/-- A constant.  Its word is the name of a field where anything else follows. -/
def readConstant? (text : List Char) : Option (Predicate × List Char) :=
  (((keyword? "all" text).map fun rest => (Predicate.everything, skipBlank rest)).or
    ((keyword? "none" text).map fun rest => (Predicate.nothing, skipBlank rest))).filter
    fun (_, rest) => endsOperand rest

/-- A group in parentheses, a constant or a comparison; `inner` reads the inside of a group. -/
def readOperand (inner : Reader Predicate) (text : List Char) :
    Except Fault (Predicate × List Char) :=
  match skipBlank text with
  | '(' :: rest => do
    let (predicate, rest) ← inner rest
    match skipBlank rest with
    | ')' :: rest => .ok (predicate, rest)
    | rest => .error ⟨.expectedClosing, rest⟩
  | text =>
    match readConstant? text with
    | some result => .ok result
    | none => readComparison text

/-- An operand after any number of negations, at most `fuel` of them. -/
def readNegations (operand : Reader Predicate) :
    Nat → List Char → Except Fault (Predicate × List Char)
  | 0, text => operand text
  | fuel + 1, text =>
    match keyword? "not" (skipBlank text) with
    | some rest => do
      let (predicate, rest) ← readNegations operand fuel rest
      return (predicate.not, rest)
    | none => operand text

/-- The later parts of a chain, at most `fuel` of them, joined to the earlier ones. -/
def readLater (connective : Connective) (part : Reader Predicate) :
    Nat → Predicate → List Char → Except Fault (Predicate × List Char)
  | 0, earlier, text => .ok (earlier, skipBlank text)
  | fuel + 1, earlier, text =>
    match keyword? (joiner connective) (skipBlank text) with
    | some rest => do
      let (later, rest) ← part rest
      readLater connective part fuel (earlier.join connective later) rest
    | none => .ok (earlier, skipBlank text)

/-- One part or several with a keyword between them, at most `fuel` after the first. -/
def readChain (connective : Connective) (part : Reader Predicate) (fuel : Nat)
    (text : List Char) : Except Fault (Predicate × List Char) := do
  let (first, rest) ← part text
  readLater connective part fuel first rest

/-- A whole expression, in which there are at most `fuel` negations before one operand, at most
`fuel` later parts in a chain and groups nested at most `fuel` deep.  Each of them takes a character
of its own, and a group its parenthesis, so that the length of the text is fuel enough. -/
def readExpression : Nat → List Char → Except Fault (Predicate × List Char)
  | 0, text => .error ⟨.expectedIdentifier, text⟩
  | fuel + 1, text =>
    readChain .or
      (readChain .and (readNegations (readOperand (readExpression fuel)) fuel) fuel) fuel text

/-- A predicate and nothing after it. -/
def readQuery (text : List Char) : Except Fault Predicate := do
  let (predicate, rest) ← readExpression (text.length + 1) text
  match skipBlank rest with
  | [] => .ok predicate
  | rest => .error ⟨.unexpectedInput, rest⟩

end Parser

/-- The predicate that a text of the query language stands for. -/
def Predicate.parse (text : String) : Except ParseError Predicate :=
  match Parser.readQuery text.toList with
  | .ok predicate => .ok predicate
  | .error fault =>
    .error ⟨fault.problem, Text.byteLength text.toList - Text.byteLength fault.unread⟩

end RecordQuery
