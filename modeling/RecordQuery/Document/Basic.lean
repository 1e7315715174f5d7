import RecordQuery.Double.Notation
import RecordQuery.Double.Reader
import RecordQuery.Text.Description

/-!
# Documents

A document is what a file holds once its scalars have types: null, Booleans, numbers, strings,
sequences, mappings in the order of their entries, and tagged documents.  Most readers see through
tags; only the texts written for messages and for string fields take a tagged document as a thing
of its own.
-/

namespace RecordQuery

/-- The contents of a file, of no particular schema. -/
inductive Document where
  | null
  | bool (value : Bool)
  | int (value : Int)
  | double (value : Double)
  | string (text : String)
  | sequence (items : List Document)
  | mapping (entries : List (Document × Document))
  /-- A document under a tag, which includes its exclamation mark. -/
  | tagged (tag : String) (content : Document)
  deriving Repr, Inhabited

namespace Document

/-- The document without the tags it stands under. -/
def untagged : Document → Document
  | .tagged _ content => content.untagged
  | document => document

/-- The document is null, possibly under a tag. -/
def isNull (document : Document) : Bool :=
  match document.untagged with
  | .null => true
  | _ => false

/-- The Boolean that a document is. -/
def bool? (document : Document) : Option Bool :=
  match document.untagged with
  | .bool value => some value
  | _ => none

/-- The integer that a document is. -/
def int? (document : Document) : Option Int :=
  match document.untagged with
  | .int value => some value
  | _ => none

/-- The number that a document is, as a double. -/
def number? (document : Document) : Option Double :=
  match document.untagged with
  | .int value => some (Double.ofInt value)
  | .double value => some value
  | _ => none

/-- The string that a document is. -/
def string? (document : Document) : Option String :=
  match document.untagged with
  | .string text => some text
  | _ => none

/-- The document is the given string, and stands under no tag. -/
def isString (text : String) : Document → Bool
  | .string text' => text' == text
  | _ => false

/-- The entries of a mapping. -/
def entries? (document : Document) : Option (List (Document × Document)) :=
  match document.untagged with
  | .mapping entries => some entries
  | _ => none

/-- The text of an untagged scalar that is not null. -/
def scalarText? : Document → Option String
  | .bool value => some (toString value)
  | .int value => some (String.ofList (Text.ofInt value))
  | .double value => some (String.ofList (Double.scientific.text value))
  | .string text => some text
  | _ => none

/-- What a document is, as a message names it. -/
def describe : Document → String
  | .null => "null"
  | .bool value => "bool " ++ toString value
  | .int value => "number " ++ String.ofList (Text.ofInt value)
  | .double value => "number " ++ String.ofList (Double.scientific.text value)
  | .string text => "string " ++ Text.describe text
  | .sequence _ => "sequence"
  | .mapping _ => "mapping"
  | .tagged tag _ => "tagged value " ++ tag

mutual

/-- Two documents are the same key of a mapping: zeros of either sign are one key, and so are all
NaNs, and the order of the entries of a mapping does not matter. -/
def sameKey : Document → Document → Bool
  | .null, .null => true
  | .bool a, .bool b => a == b
  | .int a, .int b => a == b
  | .double a, .double b => (a.isNaN && b.isNaN) || a.equal b
  | .string a, .string b => a == b
  | .sequence a, .sequence b => sameItems a b
  | .mapping a, .mapping b => a.length == b.length && hasEntries b a
  | .tagged tag a, .tagged tag' b => tag == tag' && a.sameKey b
  | _, _ => false

/-- Two sequences are the same item by item. -/
def sameItems : List Document → List Document → Bool
  | [], [] => true
  | a :: items, b :: items' => a.sameKey b && sameItems items items'
  | _, _ => false

/-- The entries of a mapping are among those of another. -/
def hasEntries (others : List (Document × Document)) : List (Document × Document) → Bool
  | [] => true
  | (key, value) :: entries =>
    (others.any fun other => key.sameKey other.1 && value.sameKey other.2) &&
      hasEntries others entries

end

mutual

/-- Every mapping in the document has each of its keys once. -/
def hasUniqueKeys : Document → Bool
  | .sequence items => itemsHaveUniqueKeys items
  | .mapping entries => entriesHaveUniqueKeys entries
  | .tagged _ content => content.hasUniqueKeys
  | _ => true

/-- Every mapping in the items has each of its keys once. -/
def itemsHaveUniqueKeys : List Document → Bool
  | [] => true
  | item :: items => item.hasUniqueKeys && itemsHaveUniqueKeys items

/-- The entries have each key once, and so has every mapping in them. -/
def entriesHaveUniqueKeys : List (Document × Document) → Bool
  | [] => true
  | (key, value) :: entries =>
    key.hasUniqueKeys && value.hasUniqueKeys && !(entries.any fun entry => key.sameKey entry.1) &&
      entriesHaveUniqueKeys entries

end

mutual

/-- No part of the document stands under a tag. -/
def isUntagged : Document → Bool
  | .sequence items => itemsAreUntagged items
  | .mapping entries => entriesAreUntagged entries
  | .tagged _ _ => false
  | _ => true

/-- No part of the items stands under a tag. -/
def itemsAreUntagged : List Document → Bool
  | [] => true
  | item :: items => item.isUntagged && itemsAreUntagged items

/-- No part of the entries stands under a tag. -/
def entriesAreUntagged : List (Document × Document) → Bool
  | [] => true
  | (key, value) :: entries => key.isUntagged && value.isUntagged && entriesAreUntagged entries

end

mutual

/-- How deep sequences and mappings are nested in the document; tags do not count. -/
def depth : Document → Nat
  | .sequence items => itemsDepth items + 1
  | .mapping entries => entriesDepth entries + 1
  | .tagged _ content => content.depth
  | _ => 0

/-- The greatest depth of the items of a sequence. -/
def itemsDepth : List Document → Nat
  | [] => 0
  | item :: items => max item.depth (itemsDepth items)

/-- The greatest depth of the keys and values of a mapping. -/
def entriesDepth : List (Document × Document) → Nat
  | [] => 0
  | (key, value) :: entries => max (max key.depth value.depth) (entriesDepth entries)

end

/-- The value of the one entry with the given string as its key; nothing if there is no such entry
or more than one. -/
def entry? (entries : List (Document × Document)) (key : String) : Option Document :=
  match entries.filter fun entry => entry.1.string? == some key with
  | [entry] => some entry.2
  | _ => none

end Document
end RecordQuery
