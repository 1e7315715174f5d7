import RecordQuery.Text.Split

/-!
# Paths as they are spelled

A path is a text of names with slashes between them.  Two spellings have the same components if
they differ in repeated slashes, in slashes at the end and in names `.` other than the first.
`Files.label` is a path as it is spelled below a root, by components; `Files.below` compares the
spellings as texts.
-/

namespace RecordQuery
namespace Files

/-- The parts of a path between its slashes. -/
def pathParts (path : String) : List String := (Text.split '/' path.toList).map String.ofList

/-- The parts of a path with slashes between them. -/
def pathOfParts (parts : List String) : String :=
  String.ofList (Text.joinWith '/' (parts.map String.toList))

/-- The path begins at the root of all files. -/
def isAbsolute (path : String) : Bool := path.toList.head? == some '/'

/-- A path one name further. -/
def extend (path name : String) : String :=
  if path.toList.getLast? == some '/' then path ++ name else path ++ "/" ++ name

/-- A path without one `./` at its start. -/
def dropDot (path : String) : String :=
  match path.toList with
  | '.' :: '/' :: rest => String.ofList rest
  | _ => path

/-- The text after a text that it begins with. -/
def dropStart? (start text : String) : Option String :=
  (start.toList.isPrefixOf? text.toList).map String.ofList

/-- What is left of the spelling of a path below a directory.  The spelling of the directory is
dropped as it stands, with a slash after it, once both have lost one `./` at their start.  A path
of one name and the paths below `.` are left as they are. -/
def below (directory path : String) : String :=
  let directory := dropDot directory
  let path := dropDot path
  if directory = "." ∨ '/' ∉ path.toList then path
  else
    match dropStart? directory path with
    | some rest => (dropStart? "/" rest).getD rest
    | none => path

/-- The part of a path stands for nothing, unless it is the first. -/
def isIdlePart (part : String) : Bool := part == "" || part == "."

/-- The components of a path: its names, after a slash if it begins with one and after `.` if it
begins with that. -/
def components (path : String) : List String :=
  if path = "" then []
  else
    match pathParts path with
    | [] => []
    | first :: parts => (if first = "" then "/" else first) :: parts.filter (!isIdlePart ·)

/-- The parts of a path that are left after the components of a root, if the path begins with
them. -/
def dropComponents? : List String → List String → Option (List String)
  | [], parts => some (parts.dropWhile isIdlePart)
  | _ :: _, [] => none
  | component :: root, part :: parts =>
    if isIdlePart part then dropComponents? (component :: root) parts
    else if part = component then dropComponents? root parts
    else none

/-- The parts of a path without idle ones at its end. -/
def trimParts (parts : List String) : List String := (parts.reverse.dropWhile isIdlePart).reverse

/-- A path as it is spelled below a root: without the components of the root if it begins with
them, and as it is otherwise. -/
def label (root path : String) : String :=
  match components root, pathParts path with
  | [], first :: parts => pathOfParts (first :: trimParts parts)
  | component :: root, first :: parts =>
    if (if first = "" then "/" else first) = component then
      match dropComponents? root parts with
      | some parts => pathOfParts (trimParts parts)
      | none => path
    else path
  | _, [] => path

end Files
end RecordQuery
