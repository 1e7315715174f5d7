import RecordQuery.Document.Basic

/-!
# Stored forms

A stored value, condition or predicate is a mapping that names its constructor under one key and
holds the arguments under others, or the sequence of the constructor and all its arguments.  In
what a predicate stores, constructors and keys may be given by their numbers, counted from zero.
Unknown keys are passed over, but a key has to be a string or a number.
-/

namespace RecordQuery
namespace Storage

/-- A constructor and its arguments as a mapping. -/
def form (key name : String) (arguments : List (String × Document)) : Document :=
  .mapping ((.string key, .string name) ::
    arguments.map fun argument => (.string argument.1, argument.2))

/-- The member of a list that a document gives by its name or its number. -/
def choice? {α : Type} (all : List α) (name : α → String) : Document → Option α
  | .string text => all.find? fun choice => name choice == text
  | .int (.ofNat number) => all[number]?
  | _ => none

/-- The number of a key among the known ones; that of an unknown key is past the last. -/
def keyNumber? (keys : List String) : Document → Option Nat
  | .string key => some (keys.idxOf key)
  | .int (.ofNat number) => some number
  | _ => none

/-- The content of the one entry with a number. -/
def numbered? (entries : List (Nat × Document)) (number : Nat) : Option Document :=
  match entries.filter fun entry => entry.1 == number with
  | [entry] => some entry.2
  | _ => none

/-- The contents under the known keys, in the order of the keys, each of which stands once. -/
def contents? (keys : List String) (entries : List (Document × Document)) :
    Option (List Document) := do
  let entries ← entries.mapM fun entry => return (← keyNumber? keys entry.1, entry.2)
  (List.range keys.length).mapM (numbered? entries)

/-- The constructor that stands under a key: its name, or a mapping of it to nothing. -/
def constructor? {α : Type} (choice : Document → Option α) : Document → Option α
  | .string name => choice (.string name)
  | .mapping [(constructor, .null)] => choice constructor
  | .mapping [(constructor, .mapping [])] => choice constructor
  | _ => none

/-- A constructor with one argument: a mapping with a key for either, or a sequence of the two. -/
def readPair? {α : Type} (choice : Document → Option α) (constructorKey argumentKey : String) :
    Document → Option (α × Document)
  | .mapping entries => do
    match ← contents? [constructorKey, argumentKey] entries with
    | [constructor, argument] => return (← constructor? choice constructor, argument)
    | _ => none
  | .sequence [constructor, argument] => return (← choice constructor, argument)
  | _ => none

end Storage
end RecordQuery
