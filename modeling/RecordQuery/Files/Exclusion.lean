import RecordQuery.Files.Tree

/-!
# Excluding a file

One file is taken out of a list of paths, however the paths spell it.  Paths that resolve are
compared by what they resolve to, and all others by their components.
-/

namespace RecordQuery
namespace Files

/-- Two paths name the same file: they resolve to it, or they have the same components if one of
them resolves to nothing. -/
def isSameFile (tree : Tree) (path other : String) : Bool :=
  match tree.resolve path, tree.resolve other with
  | .ok place, .ok place' => place == place'
  | _, _ => components path == components other

/-- The paths that do not name the excluded file. -/
def exclude (tree : Tree) (paths : List String) (excluded : String) : List String :=
  paths.filter fun path => !isSameFile tree path excluded

end Files
end RecordQuery
