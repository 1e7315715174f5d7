/-!
# Nodes of a YAML text

What a YAML text says before any scalar is given a type: scalars with their text and whether they
were written plain, sequences, mappings in the order of their entries, and tagged nodes.
-/

namespace RecordQuery
namespace Yaml

/-- A node of a YAML text. -/
inductive Node where
  /-- A scalar, by its text; a plain one is written without quotes. -/
  | scalar (plain : Bool) (text : String)
  | sequence (items : List Node)
  | mapping (entries : List (Node × Node))
  /-- A node under a tag, which includes its exclamation mark. -/
  | tagged (tag : String) (content : Node)
  deriving Repr, Inhabited

/-- The plain scalars that say that there is nothing. -/
def nullTexts : List String := ["", "~", "null", "Null", "NULL"]

/-- The name in a tag: what follows its exclamation mark. -/
def tagName (tag : String) : String :=
  match tag.toList with
  | '!' :: name => String.ofList name
  | _ => tag

namespace Node

/-- The node of a place where nothing is written. -/
def empty : Node := .scalar true ""

/-- The node without the tags it stands under. -/
def untagged : Node → Node
  | .tagged _ content => content.untagged
  | node => node

/-- The node under a tag; a node has at most one. -/
def underTag? (node : Node) (tag : String) : Option Node :=
  match node with
  | .tagged _ _ => none
  | node => some (.tagged tag node)

/-- The text of a scalar, plain or quoted. -/
def text? (node : Node) : Option String :=
  match node.untagged with
  | .scalar _ text => some text
  | _ => none

/-! ## Telling nodes apart -/

mutual

/-- Two nodes are the same. -/
def same : Node → Node → Bool
  | .scalar plain text, .scalar plain' text' => plain == plain' && text == text'
  | .sequence items, .sequence items' => sameItems items items'
  | .mapping entries, .mapping entries' => sameEntries entries entries'
  | .tagged tag content, .tagged tag' content' => tag == tag' && content.same content'
  | _, _ => false

/-- Two lists of nodes are the same. -/
def sameItems : List Node → List Node → Bool
  | [], [] => true
  | item :: items, item' :: items' => item.same item' && sameItems items items'
  | _, _ => false

/-- Two lists of entries are the same. -/
def sameEntries : List (Node × Node) → List (Node × Node) → Bool
  | [], [] => true
  | (key, value) :: entries, (key', value') :: entries' =>
    key.same key' && value.same value' && sameEntries entries entries'
  | _, _ => false

end

mutual

theorem same_iff : (node other : Node) → (node.same other = true ↔ node = other)
  | .scalar plain text, other => by cases other <;> simp [same]
  | .sequence items, other => by cases other <;> simp [same, sameItems_iff items]
  | .mapping entries, other => by cases other <;> simp [same, sameEntries_iff entries]
  | .tagged tag content, other => by cases other <;> simp [same, same_iff content]

theorem sameItems_iff : (items others : List Node) →
    (sameItems items others = true ↔ items = others)
  | [], others => by cases others <;> simp [sameItems]
  | item :: items, others => by
    cases others <;> simp [sameItems, same_iff item, sameItems_iff items]

theorem sameEntries_iff : (entries others : List (Node × Node)) →
    (sameEntries entries others = true ↔ entries = others)
  | [], others => by cases others <;> simp [sameEntries]
  | (key, value) :: entries, others => by
    cases others <;>
      simp [sameEntries, same_iff key, same_iff value, sameEntries_iff entries, Prod.ext_iff]

end

instance : DecidableEq Node := fun node other => decidable_of_iff _ (same_iff node other)

end Node
end Yaml
end RecordQuery
