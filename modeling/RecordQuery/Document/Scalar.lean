import RecordQuery.Document.Basic
import RecordQuery.Yaml.Reader

/-!
# The types of plain scalars

A plain scalar of a YAML text is null, a Boolean, an integer in base ten, sixteen, eight or two, a
finite decimal number, an infinity or a NaN if it is spelled like one, and a string otherwise.
Digits after a leading zero are a string.  An integer that one hundred and twenty-eight bits hold
but sixty-four do not has no type at all; a still larger one is a double.
-/

namespace RecordQuery
namespace Document

/-- An optional plus sign has been taken off the text, unless a second sign follows it. -/
def dropPlus? : List Char → Option (List Char)
  | '+' :: '+' :: _ => none
  | '+' :: '-' :: _ => none
  | '+' :: rest => some rest
  | text => some text

/-- The digits after an optional sign begin with a zero that is not the only one. -/
def hasLeadingZero (text : List Char) : Bool :=
  let digits := match text with
    | '-' :: rest => rest
    | '+' :: rest => rest
    | text => text
  1 < digits.length && digits.head? == some '0' && digits.all Char.isDigit

/-- A natural number with the mark of its base before it. -/
def readMarked? (text : List Char) : Option Nat :=
  match text with
  | '0' :: 'x' :: rest => Text.readNat? 16 rest
  | '0' :: 'o' :: rest => Text.readNat? 8 rest
  | '0' :: 'b' :: rest => Text.readNat? 2 rest
  | _ => none

/-- A natural number, marked or in base ten. -/
def readNatural? (text : List Char) : Option Nat :=
  (readMarked? text).or (if hasLeadingZero text then none else Text.readNat? 10 text)

/-- The integer that a plain scalar is, of any size. -/
def readInteger? (text : List Char) : Option Int :=
  match text with
  | '-' :: rest => (readNatural? rest).map fun size => -(size : Int)
  | text => ((dropPlus? text).bind readNatural?).map Int.ofNat

/-- The double that a plain scalar is. -/
def readDouble? (text : List Char) : Option Double :=
  let unsigned := dropPlus? text
  let isWord (word : Option (List Char)) (spellings : List String) : Bool :=
    word.any fun word => spellings.any fun spelling => spelling.toList == word
  if isWord unsigned [".inf", ".Inf", ".INF"] then some (Double.infinity false)
  else if isWord (some text) ["-.inf", "-.Inf", "-.INF"] then some (Double.infinity true)
  else if isWord (some text) [".nan", ".NaN", ".NAN"] then some Double.nan
  else if hasLeadingZero text then none
  else (unsigned.bind Double.read?).filter Double.isFinite

/-- The type of a number: nothing for an integer between sixty-four bits and one hundred and
twenty-eight. -/
def ofInteger? (text : List Char) (value : Int) : Option Document :=
  if -Int.pow 2 63 ≤ value ∧ value < Int.pow 2 64 then some (.int value)
  else if -Int.pow 2 127 ≤ value ∧ value < Int.pow 2 128 then none
  else
    match readDouble? text with
    | some value => some (.double value)
    | none => some (.string (String.ofList text))

/-- The document that a plain scalar is. -/
def ofPlain? (text : String) : Option Document :=
  if text ∈ Yaml.nullTexts then some .null
  else if text ∈ ["true", "True", "TRUE"] then some (.bool true)
  else if text ∈ ["false", "False", "FALSE"] then some (.bool false)
  else
    match readInteger? text.toList with
    | some value => ofInteger? text.toList value
    | none =>
      match readDouble? text.toList with
      | some value => some (.double value)
      | none => some (.string text)

mutual

/-- The document of a node; nothing if an integer in it is too large. -/
def ofNode? : Yaml.Node → Option Document
  | .scalar true text => ofPlain? text
  | .scalar false text => some (.string text)
  | .sequence items => (ofItems? items).map .sequence
  | .mapping entries => (ofEntries? entries).map .mapping
  | .tagged tag content => (ofNode? content).map (.tagged tag)

/-- The documents of the items of a sequence. -/
def ofItems? : List Yaml.Node → Option (List Document)
  | [] => some []
  | item :: items => do
    return (← ofNode? item) :: (← ofItems? items)

/-- The documents of the keys and values of a mapping. -/
def ofEntries? : List (Yaml.Node × Yaml.Node) → Option (List (Document × Document))
  | [] => some []
  | (key, value) :: entries => do
    return (← ofNode? key, ← ofNode? value) :: (← ofEntries? entries)

end

/-- How deep sequences and mappings may be nested in a document. -/
def maxDepth : Nat := 128

/-- The document that a YAML text holds, unless it is nested too deeply. -/
def ofText? (text : String) : Option Document := do
  let document ← ofNode? (← Yaml.Node.read? text)
  if document.depth ≤ maxDepth then some document else none

/-- The document that a YAML text holds, in which no mapping has a key twice. -/
def read? (text : String) : Option Document := (ofText? text).filter hasUniqueKeys

end Document
end RecordQuery
