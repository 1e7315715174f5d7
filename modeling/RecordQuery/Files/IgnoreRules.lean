import RecordQuery.Files.Glob
import RecordQuery.Files.Tree
import RecordQuery.Text.Blank
import RecordQuery.Text.Lines

/-!
# Ignore files

An ignore file lists globs, one a line, that say which entries below its directory are left out of a
walk.  A glob without a slash is matched against names at any depth, and one with a slash against
the path from the directory of the file.  An exclamation mark before a glob keeps what it matches,
and a slash after it restricts it to directories.  The last line that matches an entry decides.

Below the start of a walk, the path of an entry from a directory is what is left of its spelling
(`Files.below`), and a `./` at its start is dropped once more beforehand.  So below a start that is
spelled with two of them, the path begins with the spelling of the start and no anchored glob
matches.  Directories above the start are compared by where they are.
-/

namespace RecordQuery
namespace Files

/-- A line of an ignore file. -/
structure IgnoreRule where
  /-- What the line matches, relative to the directory of the file. -/
  pattern : Pattern
  /-- Matching entries are kept, not ignored. -/
  keeps : Bool
  /-- Only directories match. -/
  directoriesOnly : Bool
  deriving Repr

namespace IgnoreRule

/-- The line without the blanks at its end, unless the last of them is escaped. -/
def trimLine (line : List Char) : List Char :=
  if line.reverse.take 2 = [' ', '\\'] then line
  else (Text.skipBlank line.reverse).reverse

/-- The line without the marks it begins with: whether it keeps what it matches, and whether it is
anchored by a slash. -/
def dropMarks (line : List Char) : Bool × Bool × List Char :=
  match line with
  | '\\' :: '!' :: rest => (false, false, '!' :: rest)
  | '\\' :: '#' :: rest => (false, false, '#' :: rest)
  | '!' :: '/' :: rest => (true, true, rest)
  | '!' :: rest => (true, false, rest)
  | '/' :: rest => (false, true, rest)
  | line => (false, false, line)

/-- The line without a slash at its end, and whether there was one. -/
def dropSlash (line : List Char) : Bool × List Char :=
  match line.reverse with
  | '/' :: '\\' :: rest => (true, rest.reverse)
  | '/' :: rest => (true, rest.reverse)
  | _ => (false, line)

/-- The glob that a line stands for, relative to the directory of its file.  Without a slash it is
sought at any depth; two stars at its end stand for what is below a directory and not for the
directory itself. -/
def completeGlob (anchored : Bool) (glob : List Char) : List Char :=
  let anyDepth := !anchored && !glob.contains '/' && glob != "**".toList
  let placed := if anyDepth then "**/".toList ++ glob else glob
  if "/**".toList.isSuffixOf placed then placed ++ "/*".toList else placed

/-- The rule of a line; an empty line, a comment and a line that is no glob have none. -/
def ofLine? (line : List Char) : Option IgnoreRule := do
  let line := if line.head? == some '#' then [] else trimLine line
  if line.isEmpty then none
  else
    let (keeps, anchored, line) := dropMarks line
    let (directoriesOnly, glob) := dropSlash line
    let pattern ← Pattern.ofGlob? (completeGlob anchored glob)
    return ⟨pattern, keeps, directoriesOnly⟩

/-- The rules of an ignore file.  A byte order mark before its first line is passed over. -/
def ofText (text : String) : List IgnoreRule :=
  let chars := text.toList.dropWhile (· == '\uFEFF')
  (Text.lines chars).filterMap ofLine?

/-- The line matches an entry at a path from the directory of its file. -/
def appliesTo (rule : IgnoreRule) (path : String) (isDirectory : Bool) : Bool :=
  (!rule.directoriesOnly || isDirectory) && rule.pattern.acceptsText path

/-- What the rules of one file say of an entry: whether it is kept, if any rule applies to it. -/
def verdict? (rules : List IgnoreRule) (path : String) (isDirectory : Bool) : Option Bool :=
  (rules.reverse.find? fun rule => rule.appliesTo path isDirectory).map (·.keeps)

end IgnoreRule

/-- The names of ignore files, from the one that counts most to the one that counts least. -/
def ignoreFileNames : List String := [".modelqignore", ".ignore", ".gitignore"]

/-- The rules that a directory contributes to the entries below it. -/
structure IgnoreScope where
  /-- The rules of its ignore files, in the order of `ignoreFileNames`. -/
  rules : List (List IgnoreRule)
  /-- The spelling of the directory. -/
  directory : String
  /-- The directory lies above the walk, so that it is spelled from the root of all files. -/
  isAbove : Bool
  deriving Repr

/-- An entry that a walk comes to. -/
structure Visit where
  /-- The name of the entry. -/
  name : String
  /-- The path of the entry as the walk spells it. -/
  path : String
  /-- The path of the entry from the root of all files. -/
  place : String
  deriving DecidableEq, Repr

/-- An entry of a directory that a walk comes to. -/
def Visit.child (visit : Visit) (name : String) : Visit :=
  ⟨name, extend visit.path name, extend visit.place name⟩

namespace IgnoreScope

/-- The rules of a directory with the given spelling. -/
def ofDirectory (directory : String) (isAbove : Bool) (entry : Entry) : IgnoreScope :=
  let rules := ignoreFileNames.map fun name =>
    match entry.child? name with
    | some (.file text) => IgnoreRule.ofText text
    | _ => []
  ⟨rules, directory, isAbove⟩

/-- The path of an entry below the directory, as its rules see it.  In the walk that path is taken
from the spelling, without one `./` at its start. -/
def pathOf (scope : IgnoreScope) (visit : Visit) : String :=
  below scope.directory (if scope.isAbove then visit.place else dropDot visit.path)

/-- What one kind of ignore file of the scopes, innermost first, says of an entry. -/
def verdictOfKind? (kind : Nat) (scopes : List IgnoreScope) (visit : Visit) (isDirectory : Bool) :
    Option Bool :=
  scopes.findSome? fun scope =>
    IgnoreRule.verdict? (scope.rules.getD kind []) (scope.pathOf visit) isDirectory

/-- Whether an entry is left out of a walk.  A file of a kind that counts more decides before all
others, and among files of one kind the innermost; where none decides, hidden entries are left
out. -/
def leavesOut (scopes : List IgnoreScope) (visit : Visit) (isDirectory : Bool) : Bool :=
  match (List.range ignoreFileNames.length).findSome? fun kind =>
      verdictOfKind? kind scopes visit isDirectory with
  | some keeps => !keeps
  | none => visit.name.toList.head? == some '.'

end IgnoreScope
end Files
end RecordQuery
