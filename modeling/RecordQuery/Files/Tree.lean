import RecordQuery.Files.Path
import RecordQuery.Text.Blank

/-!
# A tree of files

The files that a run can see are a tree of directories under one root, with the texts of the files
as its leaves, and one of the directories is current.  A path is resolved as usual: from the root if
it begins with a slash and from the current directory otherwise, where `.` stays, `..` goes up, and
every name but the last has to be that of a directory.  What a path resolves to is known by its
names from the root, so that two spellings of one file resolve to the same names.  Overlong names
and paths lead nowhere.
-/

namespace RecordQuery
namespace Files

/-- A file or a directory. -/
inductive Entry where
  | file (text : String)
  | directory (entries : List (String × Entry))
  deriving Repr, Inhabited

/-- Why nothing is read at a path. -/
inductive Failure where
  | notFound
  | notADirectory
  | isADirectory
  | nameTooLong
  deriving DecidableEq, Repr

/-- The text of a failure. -/
def Failure.message : Failure → String
  | .notFound => "No such file or directory (os error 2)"
  | .notADirectory => "Not a directory (os error 20)"
  | .isADirectory => "Is a directory (os error 21)"
  | .nameTooLong => "File name too long (os error 36)"

namespace Entry

/-- The entry is a directory. -/
def isDirectory : Entry → Bool
  | .directory _ => true
  | .file _ => false

/-- The entries of a directory; a file has none. -/
def entries : Entry → List (String × Entry)
  | .directory entries => entries
  | .file _ => []

/-- The entry with the given name in a directory. -/
def child? (entry : Entry) (name : String) : Option Entry := entry.entries.lookup name

/-- The entry under the given names. -/
def descend? (entry : Entry) : List String → Option Entry
  | [] => some entry
  | name :: names => (entry.child? name).bind fun child => child.descend? names

theorem child?_directory (entries : List (String × Entry)) (name : String) :
    (directory entries).child? name = entries.lookup name := rfl

theorem descend?_cons (entry : Entry) (name : String) (names : List String) :
    entry.descend? (name :: names) = (entry.child? name).bind fun child => child.descend? names :=
  rfl

end Entry

/-- All files that a run can see. -/
structure Tree where
  /-- The directory that absolute paths start from. -/
  root : Entry
  /-- The names that lead from the root to the current directory. -/
  current : List String
  deriving Inhabited

namespace Tree

/-- The greatest number of bytes in a name. -/
def longestName : Nat := 255

/-- The greatest number of bytes in a path. -/
def longestPath : Nat := 4095

/-- Follows the parts of a path from a place, which is known by its names from the root.  The last
part of a path that ends in a slash is empty, and asks for a directory as `.` does. -/
def follow (tree : Tree) (place : List String) : List String → Except Failure (List String)
  | [] => .ok place
  | part :: parts =>
    match tree.root.descend? place with
    | none => .error .notFound
    | some (.file _) => .error .notADirectory
    | some (.directory entries) =>
      if part = "" ∨ part = "." then tree.follow place parts
      else if part = ".." then tree.follow place.dropLast parts
      else if longestName < Text.byteLength part.toList then .error .nameTooLong
      else if (entries.lookup part).isSome then tree.follow (place ++ [part]) parts
      else .error .notFound

/-- The names from the root of what a path leads to. -/
def resolve (tree : Tree) (path : String) : Except Failure (List String) :=
  if path = "" then .error .notFound
  else if longestPath < Text.byteLength path.toList then .error .nameTooLong
  else if isAbsolute path then tree.follow [] (pathParts path)
  else tree.follow tree.current (pathParts path)

/-- The entry that a path leads to. -/
def entry? (tree : Tree) (path : String) : Option Entry :=
  match tree.resolve path with
  | .ok place => tree.root.descend? place
  | .error _ => none

/-- The text of the file that a path leads to. -/
def read (tree : Tree) (path : String) : Except Failure String := do
  match tree.root.descend? (← tree.resolve path) with
  | some (.file text) => .ok text
  | some (.directory _) => .error .isADirectory
  | none => .error .notFound

end Tree
end Files
end RecordQuery
