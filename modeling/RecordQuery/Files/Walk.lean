import RecordQuery.Files.IgnoreRules
import RecordQuery.Sorting

/-!
# Walking a directory for record files

The record files below a directory are found depth first, the entries of each directory in the order
of their names, a directory in its own place.  Entries that the ignore files leave out are not
entered.  Ignore files count from all directories above the one walked, too, while the directory
that the walk starts from is never left out itself.
-/

namespace RecordQuery
namespace Files

/-- The extension of a file name: what follows its last point, unless that is its first
character. -/
def extension? (name : String) : Option String :=
  match Text.split '.' name.toList with
  | [] | [_] | [[], _] => none
  | parts => parts.getLast?.map String.ofList

/-- The extensions of record files. -/
def recordExtensions : List String := ["yaml", "yml", "json"]

/-- The name is that of a record file. -/
def isRecordName (name : String) : Bool :=
  (extension? name).any recordExtensions.contains

mutual

/-- The record files of an entry, given the scopes of the directories above it. -/
def recordFiles (scopes : List IgnoreScope) (visit : Visit) : Entry → List String
  | .file _ => if isRecordName visit.name then [visit.path] else []
  | .directory entries =>
    let scopes := .ofDirectory visit.path false (.directory entries) :: scopes
    let found := childFiles scopes visit entries
    (Sorting.sort (fun a b => a.1 ≤ b.1) found).flatMap (·.2)

/-- The record files of each entry of a directory, with the name of the entry. -/
def childFiles (scopes : List IgnoreScope) (parent : Visit) :
    List (String × Entry) → List (String × List String)
  | [] => []
  | (name, entry) :: entries =>
    let visit := parent.child name
    let files :=
      if IgnoreScope.leavesOut scopes visit entry.isDirectory then []
      else recordFiles scopes visit entry
    (name, files) :: childFiles scopes parent entries

end

/-- The scopes of the directories that lead to a place, without the place itself, innermost
first; the first of them has the given path. -/
def scopesAbove (path : String) (entry : Entry) (scopes : List IgnoreScope) :
    List String → List IgnoreScope
  | [] => scopes
  | name :: names =>
    let here := .ofDirectory path true entry :: scopes
    match entry.child? name with
    | none => here
    | some child => scopesAbove (extend path name) child here names

/-- The record files below the path, or the path itself if it is one.  The path `-`, however it is
spelled, names the standard input, where no files are. -/
def collect (tree : Tree) (path : String) : List String :=
  match tree.resolve path with
  | .error _ => []
  | .ok place =>
    match tree.root.descend? place with
    | none => []
    | some entry =>
      if components path = ["-"] then []
      else
        let start : Visit := ⟨(pathParts path).getLastD "", path, place.foldl extend "/"⟩
        recordFiles (scopesAbove "/" tree.root [] place) start entry

end Files
end RecordQuery
